import Qasedak.Orders.Inventory
import Mathlib.Data.List.Perm.Basic
import Mathlib.Algebra.Order.BigOperators.Group.List
import Mathlib.Algebra.Order.Ring.Nat

/-! The stock of a pool as a list of slots: an allocation takes the first ones, and fails
where there are too few. The figure of the summary is the number of slots. -/

namespace Qasedak.Orders

open Foundation Store

/-! ## Slots -/

/-- How often an asset can be handed out; as often as is asked where it has no limit. -/
def slotCount (pool : InventoryPool) (quantity : ℕ) (a : InventoryAsset) : ℕ :=
  match assetAllocationLimit a pool with
  | none => quantity
  | some limit => limit - a.currentAllocations

def limitedSlots (pool : InventoryPool) (quantity : ℕ) (candidates : List InventoryAsset) :
    List InventoryAsset :=
  candidates.flatMap fun a => List.replicate (slotCount pool quantity a) a

/-- The slots that a pool has on offer, in the order in which they are taken. -/
def slots (db : Db) (now : Instant) (pool : InventoryPool) (quantity : ℕ) :
    AllocationMode → List InventoryAsset
  | .exclusive => db.assets.rows.filter fun a =>
      a.pool = pool.pk ∧ a.status = .available ∧ notExpired now a
  | .sharedLimited => limitedSlots pool quantity (sharedCandidates db now pool)
  | .sharedUnlimited =>
      (sharedCandidates db now pool).head?.toList.flatMap (List.replicate quantity)

/-- The greedy loop takes the first slots. -/
theorem selectSharedLimited_eq {pool : InventoryPool} {quantity : ℕ}
    (candidates selected : List InventoryAsset) (available : ℕ)
    (hselected : selected.length < quantity) :
    selectSharedLimited pool quantity candidates selected available =
      if quantity ≤ (selected ++ limitedSlots pool quantity candidates).length then
        .ok ((selected ++ limitedSlots pool quantity candidates).take quantity)
      else .error (insufficientStock pool quantity
        (available + (limitedSlots pool quantity candidates).length)) := by
  induction candidates generalizing selected available with
  | nil =>
      have hfew : ¬ quantity ≤ selected.length := by omega
      simp [selectSharedLimited, limitedSlots, hfew]
  | cons a candidates ih =>
      have hslots : limitedSlots pool quantity (a :: candidates) =
          List.replicate (slotCount pool quantity a) a ++ limitedSlots pool quantity candidates :=
        rfl
      rw [selectSharedLimited, hslots]
      cases hlimit : assetAllocationLimit a pool with
      | none =>
          have hcount : slotCount pool quantity a = quantity := by simp [slotCount, hlimit]
          have henough : quantity ≤ (selected ++ (List.replicate quantity a ++
              limitedSlots pool quantity candidates)).length := by
            simp only [List.length_append, List.length_replicate]
            omega
          have hmin : min (quantity - selected.length) quantity = quantity - selected.length := by
            omega
          rw [hcount, if_pos henough, List.take_append, List.take_of_length_le hselected.le,
            List.take_append_of_le_length (by simp), List.take_replicate, hmin]
      | some limit =>
          have hcount : slotCount pool quantity a = limit - a.currentAllocations := by
            simp [slotCount, hlimit]
          dsimp only
          rw [hcount]
          by_cases hfull : quantity - selected.length ≤ limit - a.currentAllocations
          · -- The asset fills what is left.
            have hmin : min (limit - a.currentAllocations) (quantity - selected.length) =
                quantity - selected.length := by omega
            have htaken : quantity ≤ (selected ++ List.replicate (quantity - selected.length)
                a).length := by
              simp only [List.length_append, List.length_replicate]
              omega
            have henough : quantity ≤ (selected ++ (List.replicate (limit - a.currentAllocations) a
                ++ limitedSlots pool quantity candidates)).length := by
              simp only [List.length_append, List.length_replicate]
              omega
            rw [hmin, if_pos htaken, if_pos henough, List.take_append,
              List.take_of_length_le hselected.le,
              List.take_append_of_le_length (by simpa using hfull),
              List.take_replicate, Nat.min_eq_left hfull]
          · have hmin : min (limit - a.currentAllocations) (quantity - selected.length) =
                limit - a.currentAllocations := by omega
            have htaken : (selected ++ List.replicate (limit - a.currentAllocations) a).length <
                quantity := by
              simp only [List.length_append, List.length_replicate]
              omega
            rw [hmin, if_neg (by omega), ih _ _ htaken, List.append_assoc]
            simp only [List.length_append, List.length_replicate, Nat.add_assoc]

/-- The selection takes the first slots, where there are enough. -/
theorem selectAssets_eq {db : Db} {now : Instant} {pool : InventoryPool} {quantity : ℕ}
    (hquantity : 1 ≤ quantity) (mode : AllocationMode) :
    selectAssets db now pool quantity mode =
      if quantity ≤ (slots db now pool quantity mode).length then
        .ok ((slots db now pool quantity mode).take quantity)
      else .error (insufficientStock pool quantity (slots db now pool quantity mode).length) := by
  cases mode with
  | exclusive =>
      have hlength : (slots db now pool quantity .exclusive).length < quantity ∨
          quantity ≤ (slots db now pool quantity .exclusive).length := Nat.lt_or_ge _ _
      rcases hlength with h | h
      · rw [if_neg (by omega), selectAssets, selectExclusiveAssets]
        have htake : ((slots db now pool quantity .exclusive).take quantity).length =
            (slots db now pool quantity .exclusive).length := by
          rw [List.length_take]
          omega
        rw [slots] at h htake ⊢
        simp only [htake, if_pos h]
      · rw [if_pos h, selectAssets, selectExclusiveAssets]
        have htake : ¬ ((slots db now pool quantity .exclusive).take quantity).length <
            quantity := by
          rw [List.length_take]
          omega
        rw [slots] at htake ⊢
        simp only [if_neg htake]
  | sharedLimited =>
      rw [selectAssets, selectSharedLimited_eq _ [] 0 hquantity, List.nil_append, Nat.zero_add]
      rfl
  | sharedUnlimited =>
      rw [selectAssets, selectSharedUnlimitedAssets]
      have hslots : slots db now pool quantity .sharedUnlimited =
          (sharedCandidates db now pool).head?.toList.flatMap (List.replicate quantity) := rfl
      rw [hslots]
      cases (sharedCandidates db now pool).head? with
      | none =>
          have hnone : quantity ≠ 0 := by omega
          simp [hnone]
      | some a => simp

/-! ## The figure of the summary -/

theorem slotCount_of_limit {pool : InventoryPool} {quantity : ℕ} {a : InventoryAsset}
    (h : (assetAllocationLimit a pool).isNone = false) :
    slotCount pool quantity a = (assetAllocationLimit a pool).getD 0 - a.currentAllocations := by
  rw [slotCount]
  cases hlimit : assetAllocationLimit a pool with
  | none => simp [hlimit] at h
  | some limit => rfl

theorem length_limitedSlots (pool : InventoryPool) (quantity : ℕ)
    (candidates : List InventoryAsset) :
    (limitedSlots pool quantity candidates).length =
      (candidates.map (slotCount pool quantity)).sum := by
  rw [limitedSlots, List.length_flatMap]
  simp

/-- The slots of a pool in its own mode are enough exactly if its figure is. -/
theorem length_slots_iff {db : Db} {now : Instant} {pool : InventoryPool} {quantity : ℕ} :
    quantity ≤ (slots db now pool quantity pool.allocationMode).length ↔
      ∀ capacity ∈ availableCapacity db now pool, quantity ≤ capacity := by
  have hperm : (sharedCandidates db now pool).Perm (usableAssets db now pool) :=
    List.perm_insertionSort _ _
  rw [availableCapacity]
  cases hmode : pool.allocationMode with
  | exclusive =>
      have hsame : (db.assets.rows.filter fun a =>
          a.pool = pool.pk ∧ a.status = .available ∧ notExpired now a) =
            (usableAssets db now pool).filter fun a => a.status = .available := by
        rw [usableAssets, List.filter_filter]
        refine List.filter_congr fun a _ => ?_
        by_cases hstatus : a.status = .available <;> simp [hstatus]
      rw [slots, hsame]
      simp
  | sharedLimited =>
      have hlength : (slots db now pool quantity .sharedLimited).length =
          ((usableAssets db now pool).map (slotCount pool quantity)).sum := by
        rw [slots, length_limitedSlots]
        exact (hperm.map _).sum_eq
      rw [hlength]
      cases hany : (usableAssets db now pool).any fun a => (assetAllocationLimit a pool).isNone with
      | true =>
          obtain ⟨a, ha, hnone⟩ := List.any_eq_true.mp hany
          have hcount : slotCount pool quantity a = quantity := by
            rw [Option.isNone_iff_eq_none] at hnone
            simp [slotCount, hnone]
          have hle : slotCount pool quantity a ≤
              ((usableAssets db now pool).map (slotCount pool quantity)).sum :=
            List.le_sum_of_mem (List.mem_map_of_mem ha)
          simp only [if_true]
          exact ⟨fun _ _ h => by simp at h, fun _ => by omega⟩
      | false =>
          have hsum : (usableAssets db now pool).map (slotCount pool quantity) =
              (usableAssets db now pool).map fun a =>
                (assetAllocationLimit a pool).getD 0 - a.currentAllocations := by
            refine List.map_congr_left fun a ha => slotCount_of_limit ?_
            exact Bool.eq_false_iff.mpr (List.any_eq_false.mp hany a ha)
          simp [hsum]
  | sharedUnlimited =>
      rw [slots]
      cases husable : usableAssets db now pool with
      | nil =>
          have hnil : sharedCandidates db now pool = [] := by
            rw [husable] at hperm
            exact hperm.eq_nil
          simp [hnil]
      | cons a rest =>
          cases hcandidates : sharedCandidates db now pool with
          | nil =>
              rw [hcandidates, husable] at hperm
              exact absurd hperm.symm.eq_nil (by simp)
          | cons b candidates => simp

/-! ## Allocation -/

variable {now : Instant} {pool : Option ℕ} {quantity : ℕ} {cup order : Option ℕ}
  {mode : AllocationMode} {assets : List ℕ} {s : Shop}

/-- A row as an allocation makes it: active, and without a label. -/
structure IsNewAllocation (cup order : Option ℕ) (mode : AllocationMode) (r : ConfigAllocation) :
    Prop where
  active : r.isActive = true
  cup : r.cup = cup
  order : r.order = order
  mode : r.allocationMode = mode
  source : r.deliverySource = none
  rule : r.recipeRule = none

/-- The rows that an allocation adds, one for each slot. -/
structure NewAllocations (assets : List ℕ) (cup order : Option ℕ) (mode : AllocationMode)
    (rows : List ConfigAllocation) : Prop where
  assets : rows.map (·.asset) = assets
  new : ∀ r ∈ rows, IsNewAllocation cup order mode r

theorem NewAllocations.append {assets' : List ℕ} {rows rows' : List ConfigAllocation}
    (h : NewAllocations assets cup order mode rows)
    (h' : NewAllocations assets' cup order mode rows') :
    NewAllocations (assets ++ assets') cup order mode (rows ++ rows') where
  assets := by rw [List.map_append, h.assets, h'.assets]
  new r hr := (List.mem_append.mp hr).elim (h.new r) (h'.new r)

/-- The database after the writes of an allocation: the assets are assigned, and the rows
follow the others. -/
structure Allocates (db db' : Db) (assets : List ℕ) (rows : List ConfigAllocation) : Prop where
  frame : db' = { db.assignAssets assets with allocations := db'.allocations }
  rows : db'.allocations.rows = db.allocations.rows ++ rows

theorem newAllocation_new (db : Db) (a : ℕ) (cup order : Option ℕ) (mode : AllocationMode) :
    NewAllocations [a] cup order mode [newAllocation db a cup order mode] where
  assets := rfl
  new r hr := by
    rw [List.mem_singleton.mp hr]
    exact ⟨rfl, rfl, rfl, rfl, rfl, rfl⟩

/-- The loop that adds the rows. -/
theorem wp_addAllocations {s₀ : Shop} {done : List ℕ} {added : List ConfigAllocation}
    (hshop : s = { s₀ with db := { s₀.db with allocations := s.db.allocations } })
    (hrows : s.db.allocations.rows = s₀.db.allocations.rows ++ added)
    (hadded : NewAllocations done cup order mode added) :
    Prog.wp (Prog.forEach assets added fun a allocations => do
        let db ← Prog.readDb id
        Prog.writeDb (·.addAllocation a cup order mode)
        return allocations ++ [newAllocation db a cup order mode] : ShopM _)
      (fun rows s' => NewAllocations (done ++ assets) cup order mode rows ∧
        s' = { s₀ with db := { s₀.db with allocations := s'.db.allocations } } ∧
          s'.db.allocations.rows = s₀.db.allocations.rows ++ rows)
      (fun _ _ => False) s := by
  induction assets generalizing s added done with
  | nil =>
      rw [List.append_nil]
      exact ⟨hadded, hshop, hrows⟩
  | cons a assets ih =>
      have hnew := hadded.append (newAllocation_new s.db a cup order mode)
      have hlist : done ++ a :: assets = done ++ [a] ++ assets := by simp
      rw [Prog.forEach, Prog.wp_bind, Prog.wp_bind, Prog.wp_readDb, Prog.wp_bind, Prog.wp_writeDb,
        Prog.wp_pure, hlist]
      refine ih ?_ ?_ hnew
      · rw [hshop]
        rfl
      · rw [Db.addAllocation, Table.rows_insert, hrows, List.append_assoc]
        rfl

theorem wp_writeAllocations :
    Prog.wp (writeAllocations assets cup order mode)
      (fun rows s' => NewAllocations assets cup order mode rows ∧
        Allocates s.db s'.db assets rows ∧ s' = { s with db := s'.db })
      (fun _ _ => False) s := by
  rw [writeAllocations, Prog.wp_bind, Prog.wp_writeDb]
  have hnil : NewAllocations [] cup order mode [] := ⟨rfl, by simp⟩
  have hstart : (s.db.assignAssets assets).allocations.rows =
      (s.db.assignAssets assets).allocations.rows ++ [] := (List.append_nil _).symm
  refine Prog.wp_mono (@wp_addAllocations _ _ _ _ _ ({ s with db := s.db.assignAssets assets }) _ _ rfl
    hstart hnil) ?_ fun _ _ h => h
  rintro rows s' ⟨hnew, hshop, hrows⟩
  exact ⟨hnew, ⟨congrArg Sys.db hshop, hrows⟩, by rw [hshop]⟩

/-- The pool is there and active, and has a slot for each unit. -/
def InStock (db : Db) (now : Instant) (pool : Option ℕ) (quantity : ℕ)
    (mode : Option AllocationMode) : Prop :=
  ∃ p, pool.bind db.pools.get? = some p ∧ p.isActive = true ∧ 1 ≤ quantity ∧
    quantity ≤ (slots db now p quantity (mode.getD p.allocationMode)).length

/-- An allocation takes the first slots, or changes nothing. -/
theorem wp_allocateAssetsFromPool {mode : Option AllocationMode} :
    Prog.wp (allocateAssetsFromPool now pool quantity cup order mode)
      (fun rows s' => ∃ p, pool.bind s.db.pools.get? = some p ∧
        InStock s.db now pool quantity mode ∧
          NewAllocations (((slots s.db now p quantity (mode.getD p.allocationMode)).take
            quantity).map (·.pk)) cup order (mode.getD p.allocationMode) rows ∧
          Allocates s.db s'.db (((slots s.db now p quantity (mode.getD p.allocationMode)).take
            quantity).map (·.pk)) rows ∧ s' = { s with db := s'.db })
      (fun h s' => (∃ e, h = .raised e) ∧ s' = s ∧ ¬ InStock s.db now pool quantity mode) s := by
  rw [allocateAssetsFromPool, Prog.wp_bind, Prog.wp_readDb, Prog.wp_bind, Prog.wp_orRaise]
  dsimp only [id]
  cases hpool : pool.bind s.db.pools.get? with
  | none => exact ⟨⟨_, rfl⟩, rfl, fun ⟨p, hp, _⟩ => by simp_all⟩
  | some p =>
      have hunique : ∀ q, pool.bind s.db.pools.get? = some q → q = p := fun q hq =>
        Option.some.inj (hq.symm.trans hpool)
      dsimp only
      rw [Prog.wp_ite]
      refine ⟨fun hzero => ⟨⟨_, rfl⟩, rfl, fun ⟨_, _, _, hone, _⟩ => by omega⟩, fun hone => ?_⟩
      rw [Prog.wp_ite]
      refine ⟨fun hinactive => ⟨⟨_, rfl⟩, rfl, ?_⟩, fun hactive => ?_⟩
      · rintro ⟨q, hq, hqactive, _⟩
        rw [hunique q hq] at hqactive
        exact hinactive hqactive
      · rw [Prog.wp_bind, selectAssets_eq (by omega)]
        refine Prog.wp_check (fun assets hassets => ?_) fun e he => ?_
        · split at hassets
          · rename_i henough
            obtain rfl := Except.ok.inj hassets
            refine Prog.wp_mono wp_writeAllocations ?_ fun _ _ h => h.elim
            rintro rows s' ⟨hnew, hallocates, hshop⟩
            exact ⟨p, rfl, ⟨p, hpool, not_not.mp hactive, by omega, henough⟩, hnew, hallocates,
              hshop⟩
          · cases hassets
        · refine ⟨⟨e, rfl⟩, rfl, fun ⟨q, hq, _, _, henough⟩ => ?_⟩
          rw [hunique q hq] at henough
          rw [if_pos henough] at he
          cases he

/-- An allocation in the pool's own mode succeeds exactly if the pool is active and the
figure of its summary allows it; where it fails, nothing is changed. -/
theorem allocate_iff_capacity {k : ℕ} {p : InventoryPool} (hpool : s.db.pools.get? k = some p)
    (hquantity : 1 ≤ quantity) :
    ((∃ rows, (allocateAssetsFromPool now (some k) quantity cup order none s).1 = .ok rows) ↔
      (getPoolStockSummary s.db now p).isActive = true ∧
        ∀ capacity ∈ (getPoolStockSummary s.db now p).availableCapacity, quantity ≤ capacity) ∧
    ((∀ rows, (allocateAssetsFromPool now (some k) quantity cup order none s).1 ≠ .ok rows) →
      (allocateAssetsFromPool now (some k) quantity cup order none s).2 = s) := by
  have hstock : InStock s.db now (some k) quantity none ↔
      (getPoolStockSummary s.db now p).isActive = true ∧
        ∀ capacity ∈ (getPoolStockSummary s.db now p).availableCapacity, quantity ≤ capacity := by
    change _ ↔ p.isActive = true ∧ ∀ capacity ∈ availableCapacity s.db now p, quantity ≤ capacity
    rw [← length_slots_iff]
    constructor
    · rintro ⟨q, hq, hactive, _, henough⟩
      obtain rfl : q = p := Option.some.inj (hq.symm.trans hpool)
      exact ⟨hactive, henough⟩
    · rintro ⟨hactive, henough⟩
      exact ⟨p, hpool, hactive, hquantity, henough⟩
  rw [← hstock]
  have h : Prog.wp (allocateAssetsFromPool now (some k) quantity cup order none) _ _ s :=
    wp_allocateAssetsFromPool
  unfold Prog.wp at h
  rcases hrun : allocateAssetsFromPool now (some k) quantity cup order none s with ⟨r, s'⟩
  rw [hrun] at h
  cases r with
  | ok rows =>
      obtain ⟨-, -, hin, -⟩ := h
      exact ⟨⟨fun _ => hin, fun _ => ⟨rows, rfl⟩⟩, fun hnot => absurd rfl (hnot rows)⟩
  | error e =>
      obtain ⟨-, hsame, hnot⟩ := h
      exact ⟨⟨fun ⟨_, hok⟩ => by simp at hok, fun hin => absurd hin hnot⟩, fun _ => hsame⟩

/-- A pool of the given mode with two assets, each for two customers. -/
def sampleStock (mode : AllocationMode) : Shop where
  db :=
    { orders := .empty
      sms := .empty
      clients := .empty
      inbounds := .empty
      panels := .empty
      plans := .empty
      stores := .empty
      automations := .empty
      pools := Table.empty.put { pk := 1, allocationMode := mode, maxAllocationsPerAsset := some 2 }
      assets := (Table.empty.put { pk := 11, pool := 1, rawLink := "vless://a" }).put
        { pk := 12, pool := 1, rawLink := "vless://b" } }
  remote := {}

/-- Three units of the four. -/
theorem allocate_iff_capacity_three :
    ((∃ rows, (allocateAssetsFromPool 0 (some 1) 3 none none none (sampleStock .sharedLimited)).1 =
      .ok rows) ↔
      (getPoolStockSummary (sampleStock .sharedLimited).db 0
          { pk := 1, allocationMode := .sharedLimited, maxAllocationsPerAsset := some 2 }).isActive =
            true ∧
        ∀ capacity ∈ (getPoolStockSummary (sampleStock .sharedLimited).db 0
          { pk := 1, allocationMode := .sharedLimited
            maxAllocationsPerAsset := some 2 }).availableCapacity, 3 ≤ capacity) ∧
    ((∀ rows, (allocateAssetsFromPool 0 (some 1) 3 none none none
        (sampleStock .sharedLimited)).1 ≠ .ok rows) →
      (allocateAssetsFromPool 0 (some 1) 3 none none none (sampleStock .sharedLimited)).2 =
        sampleStock .sharedLimited) :=
  allocate_iff_capacity rfl (by decide)

end Qasedak.Orders

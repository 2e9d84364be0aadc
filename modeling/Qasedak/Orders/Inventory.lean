import Mathlib
import Qasedak.Orders.Db

/-! `allocate_assets_from_pool`: configurations that were bought in advance are handed out
from a pool, each asset once or up to a limit. -/

namespace Qasedak.Orders

open Foundation Store

/-! ## Selection -/

/-- `_not_expired_q`. -/
def notExpired (now : Instant) (a : InventoryAsset) : Bool := a.expiresAt.all (now < ·)

/-- The text of `InsufficientInventoryStock`. -/
def insufficientStock (pool : InventoryPool) (requested available : ℕ) : String :=
  "Pool '" ++ pool.title ++ "' has insufficient stock: requested " ++ toString requested ++
    ", available " ++ toString available ++ "."

/-- `_asset_allocation_limit`; none is no limit. -/
def assetAllocationLimit (a : InventoryAsset) (pool : InventoryPool) : Option ℕ :=
  match a.maxAllocations <|> pool.maxAllocationsPerAsset with
  | some limit => some limit
  | none => if pool.allocationMode = .exclusive then some 1 else none

/-- The assets that are neither out of use nor expired. -/
def usableAssets (db : Db) (now : Instant) (pool : InventoryPool) : List InventoryAsset :=
  db.assets.rows.filter fun a =>
    a.pool = pool.pk ∧ (a.status = .available ∨ a.status = .assigned) ∧ notExpired now a

/-- `_shared_candidate_queryset`. -/
def sharedCandidates (db : Db) (now : Instant) (pool : InventoryPool) : List InventoryAsset :=
  (usableAssets db now pool).insertionSort fun a b => a.currentAllocations ≤ b.currentAllocations

/-- `_select_exclusive_assets`. -/
def selectExclusiveAssets (db : Db) (now : Instant) (pool : InventoryPool) (quantity : ℕ) :
    Except String (List InventoryAsset) :=
  let assets := (db.assets.rows.filter fun a =>
    a.pool = pool.pk ∧ a.status = .available ∧ notExpired now a).take quantity
  if assets.length < quantity then .error (insufficientStock pool quantity assets.length)
  else .ok assets

/-- The loop of `_select_shared_limited_assets`. -/
def selectSharedLimited (pool : InventoryPool) (quantity : ℕ) : List InventoryAsset →
    List InventoryAsset → ℕ → Except String (List InventoryAsset)
  | [], _, available => .error (insufficientStock pool quantity available)
  | a :: candidates, selected, available =>
      match assetAllocationLimit a pool with
      | none => .ok (selected ++ List.replicate (quantity - selected.length) a)
      | some limit =>
          let slots := limit - a.currentAllocations
          let taken := selected ++ List.replicate (min slots (quantity - selected.length)) a
          if quantity ≤ taken.length then .ok taken
          else selectSharedLimited pool quantity candidates taken (available + slots)

/-- `_select_shared_unlimited_assets`. -/
def selectSharedUnlimitedAssets (db : Db) (now : Instant) (pool : InventoryPool)
    (quantity : ℕ) : Except String (List InventoryAsset) :=
  match (sharedCandidates db now pool).head? with
  | none => .error (insufficientStock pool quantity 0)
  | some a => .ok (List.replicate quantity a)

/-- The assets of an allocation, an asset as often as it is allocated. -/
def selectAssets (db : Db) (now : Instant) (pool : InventoryPool) (quantity : ℕ) :
    AllocationMode → Except String (List InventoryAsset)
  | .exclusive => selectExclusiveAssets db now pool quantity
  | .sharedLimited =>
      selectSharedLimited pool quantity (sharedCandidates db now pool) [] 0
  | .sharedUnlimited => selectSharedUnlimitedAssets db now pool quantity

/-! ## Allocation -/

/-- The row of an asset that is allocated so many more times. -/
def assignAsset (count : ℕ) (a : InventoryAsset) : InventoryAsset :=
  { a with status := .assigned, currentAllocations := a.currentAllocations + count }

theorem assignAsset_pk (count : ℕ) (a : InventoryAsset) : (assignAsset count a).pk = a.pk := rfl

/-- The update of the selected assets. -/
def assignSelected (selected : List ℕ) (a : InventoryAsset) : InventoryAsset :=
  if a.pk ∈ selected then assignAsset (selected.count a.pk) a else a

theorem assignSelected_pk (selected : List ℕ) (a : InventoryAsset) :
    (assignSelected selected a).pk = a.pk := by
  rw [assignSelected]
  split <;> simp [assignAsset_pk]

def newAllocation (db : Db) (asset : ℕ) (cup order : Option ℕ) (mode : AllocationMode) :
    ConfigAllocation where
  pk := db.allocations.nextKey
  asset := asset
  cup := cup
  order := order
  allocationMode := mode

theorem newAllocation_pk (db : Db) (asset : ℕ) (cup order : Option ℕ) (mode : AllocationMode) :
    (newAllocation db asset cup order mode).pk = db.allocations.nextKey := rfl

def Db.addAllocation (db : Db) (asset : ℕ) (cup order : Option ℕ) (mode : AllocationMode) : Db :=
  { db with
    allocations := db.allocations.insert (newAllocation db asset cup order mode)
      (newAllocation_pk db asset cup order mode) }

def Db.assignAssets (db : Db) (selected : List ℕ) : Db :=
  { db with assets := db.assets.map (assignSelected selected) (assignSelected_pk selected) }

/-- The writes of an allocation. -/
def writeAllocations (assets : List ℕ) (cup order : Option ℕ) (mode : AllocationMode) :
    ShopM (List ConfigAllocation) := do
  Prog.writeDb (·.assignAssets assets)
  Prog.forEach assets [] fun a allocations => do
    let db ← Prog.readDb id
    Prog.writeDb (·.addAllocation a cup order mode)
    return allocations ++ [newAllocation db a cup order mode]

/-- `allocate_assets_from_pool`; it returns the new allocations. -/
def allocateAssetsFromPool (now : Instant) (pool : Option ℕ) (quantity : ℕ)
    (cup order : Option ℕ) (mode : Option AllocationMode) : ShopM (List ConfigAllocation) := do
  let db ← Prog.readDb id
  let pool ← Prog.orRaise "ConfigInventoryPool matching query does not exist."
    (pool.bind db.pools.get?)
  if quantity < 1 then Prog.raise "Allocation quantity must be at least 1."
  else if ¬ pool.isActive then Prog.raise ("Pool '" ++ pool.title ++ "' is not active.")
  else do
    let mode := mode.getD pool.allocationMode
    let assets ← Prog.ofExcept (selectAssets db now pool quantity mode)
    writeAllocations (assets.map (·.pk)) cup order mode

/-- `_validate_selected_asset`; the mode is the one of this allocation. -/
def validateSelectedAsset (now : Instant) (pool : InventoryPool) (mode : AllocationMode)
    (requested : ℕ) (a : InventoryAsset) : Except String Unit :=
  if a.pool ≠ pool.pk then
    .error "Selected inventory asset does not belong to the selected pool."
  else if a.status = .disabled ∨ a.status = .expired ∨ a.status = .burned ∨ a.status = .reserved then
    .error "Selected inventory asset is not usable."
  else if ¬ notExpired now a then .error "Selected inventory asset is expired."
  else match mode with
    | .exclusive =>
        if requested ≠ 1 ∨ a.status ≠ .available ∨ 0 < a.currentAllocations then
          .error "Selected exclusive inventory asset is already assigned."
        else .ok ()
    | .sharedLimited =>
        match assetAllocationLimit a pool with
        | none => .ok ()
        | some limit =>
            if limit - a.currentAllocations < requested then
              .error "Selected shared inventory asset has no remaining allocation capacity."
            else .ok ()
    | .sharedUnlimited => .ok ()

/-- The checks on all selected assets; an asset may be selected more than once. -/
def validateSelectedAssets (db : Db) (now : Instant) (pool : InventoryPool)
    (mode : AllocationMode) (selected : List ℕ) : List ℕ → Except String Unit
  | [] => .ok ()
  | k :: ks =>
      match db.assets.get? k with
      | none => .error "Selected inventory asset was not found."
      | some a =>
          match validateSelectedAsset now pool mode (selected.count k) a with
          | .error e => .error e
          | .ok () => validateSelectedAssets db now pool mode selected ks

/-- `allocate_selected_assets_from_pool`. -/
def allocateSelectedAssetsFromPool (now : Instant) (pool : Option ℕ) (selected : List ℕ)
    (cup order : Option ℕ) (mode : Option AllocationMode) : ShopM (List ConfigAllocation) := do
  let db ← Prog.readDb id
  let pool ← Prog.orRaise "ConfigInventoryPool matching query does not exist."
    (pool.bind db.pools.get?)
  if 0 ∈ selected then Prog.raise "Selected inventory asset id is not valid."
  else if selected = [] then Prog.raise "Select at least one inventory asset."
  else if ¬ pool.isActive then Prog.raise ("Pool '" ++ pool.title ++ "' is not active.")
  else do
    let mode := mode.getD pool.allocationMode
    if selected.any fun k => (db.assets.get? k).isNone then
      Prog.raise "Selected inventory asset was not found."
    else do
      Prog.ofExcept (validateSelectedAssets db now pool mode selected selected)
      writeAllocations selected cup order mode

/-! ## Release -/

/-- The allocations of `release_inventory_allocation_for_cup_item`. -/
def releasedAllocations (db : Db) (cup : ℕ) (allocation asset : Option ℕ) :
    List ConfigAllocation :=
  let active := db.allocations.rows.filter fun a => a.cup = some cup ∧ a.isActive
  match allocation, asset with
  | some k, _ => active.filter fun a => a.pk = k
  | none, some k => active.filter fun a => a.asset = k
  | none, none => []

def releaseAllocation (a : ConfigAllocation) : ConfigAllocation := { a with isActive := false }

theorem releaseAllocation_pk (a : ConfigAllocation) : (releaseAllocation a).pk = a.pk := rfl

/-- The asset once one of its allocations is released. -/
def returnAsset (stillActive : Bool) (a : InventoryAsset) : InventoryAsset :=
  { a with
    currentAllocations := a.currentAllocations - 1
    status := if ¬ stillActive ∧ a.status = .assigned then .available else a.status }

theorem returnAsset_pk (stillActive : Bool) (a : InventoryAsset) :
    (returnAsset stillActive a).pk = a.pk := rfl

/-- Some allocation of the asset is active. -/
def hasActiveAllocations (db : Db) (asset : ℕ) : Bool :=
  db.allocations.rows.any fun a => a.asset = asset && a.isActive

def Db.releaseOne (db : Db) (a : ConfigAllocation) : Db :=
  let released := { db with
    allocations := db.allocations.modify a.pk releaseAllocation releaseAllocation_pk }
  { released with
    assets := released.assets.modify a.asset (returnAsset (hasActiveAllocations released a.asset))
      (returnAsset_pk (hasActiveAllocations released a.asset)) }

/-- `release_inventory_allocation_for_cup_item`; it counts the allocations. -/
def releaseInventoryAllocation (cup : ℕ) (allocation asset : Option ℕ) : ShopM ℕ := do
  let db ← Prog.readDb id
  Prog.forEach (releasedAllocations db cup allocation asset) 0 fun a count => do
    Prog.writeDb (·.releaseOne a)
    return count + 1

/-! ## Stock -/

/-- `get_pool_stock_summary`; no capacity is an unlimited one. -/
structure StockSummary where
  poolId : ℕ
  title : String
  isActive : Bool
  allocationMode : AllocationMode
  assetCount : ℕ
  statusCounts : AssetStatus → ℕ
  availableCapacity : Option ℕ
  usableAssetCount : ℕ

/-- The capacity of a pool; an asset without a limit makes it unlimited. -/
def availableCapacity (db : Db) (now : Instant) (pool : InventoryPool) : Option ℕ :=
  let usable := usableAssets db now pool
  match pool.allocationMode with
  | .exclusive => some (usable.filter fun a => a.status = .available).length
  | .sharedLimited =>
      if usable.any fun a => (assetAllocationLimit a pool).isNone then none
      else some (usable.map fun a =>
        (assetAllocationLimit a pool).getD 0 - a.currentAllocations).sum
  | .sharedUnlimited => if usable = [] then some 0 else none

def getPoolStockSummary (db : Db) (now : Instant) (pool : InventoryPool) : StockSummary :=
  let assets := db.assets.rows.filter fun a => a.pool = pool.pk
  { poolId := pool.pk
    title := pool.title
    isActive := pool.isActive
    allocationMode := pool.allocationMode
    assetCount := assets.length
    statusCounts := fun status => (assets.filter fun a => a.status = status).length
    availableCapacity := availableCapacity db now pool
    usableAssetCount := (usableAssets db now pool).length }

/-! ## Top-up -/

/-- A label in the metadata of an allocation. -/
def Db.labelAllocation (db : Db) (k : ℕ) (label : ConfigAllocation → ConfigAllocation)
    (hlabel : ∀ a, (label a).pk = a.pk) : Db :=
  { db with allocations := db.allocations.modify k label hlabel }

/-- The allocations that a source or a rule has, and new ones for what is missing. -/
def topUpAllocations (now : Instant) (pool : Option ℕ) (quantity : ℕ) (cup order : Option ℕ)
    (mode : Option AllocationMode) (has : ConfigAllocation → Bool)
    (label : ConfigAllocation → ConfigAllocation) (hlabel : ∀ a, (label a).pk = a.pk) :
    ShopM (List ConfigAllocation) := do
  let db ← Prog.readDb id
  let existing := db.allocations.rows.filter has
  let missing := max quantity 1 - existing.length
  if missing = 0 then return existing
  else do
    let added ← allocateAssetsFromPool now pool missing cup order mode
    Prog.forEach added () fun a _ => Prog.writeDb (·.labelAllocation a.pk label hlabel)
    return existing ++ added

end Qasedak.Orders

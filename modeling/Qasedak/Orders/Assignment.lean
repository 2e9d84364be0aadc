import Qasedak.Orders.ProgrammeFrames

/-! The inventory asset that an administrator chose for an order: it is allocated to the cup
of the order and becomes one of its items. -/

namespace Qasedak.Orders

open Foundation Store Panels Prog

/-! ## The choice -/

/-- `assignment_assets`: the pools of a plan, and those that serve no plan at all. -/
def servesPlan (db : Db) (plan : ℕ) (pool : InventoryPool) : Bool :=
  let sources := db.deliverySources.rows.filter (·.inventoryPool = some pool.pk)
  let rules := db.rules.rows.filter (·.inventoryPool = some pool.pk)
  pool.connectedPlan = some plan ||
    sources.any (fun source => source.active &&
      (db.deliveryConfigs.get? source.deliveryConfig).any (·.plan = plan)) ||
    rules.any (fun rule => rule.isActive && (db.recipes.get? rule.recipe).any (·.plan = plan)) ||
    pool.connectedPlan = none && sources.isEmpty && rules.isEmpty

/-- `assignment_assets(plan).filter(pk=asset).first()`, with its pool. -/
def assignmentAsset (db : Db) (now : Instant) (plan asset : ℕ) :
    Option (InventoryAsset × InventoryPool) := do
  let a ← db.assets.get? asset
  let pool ← db.pools.get? a.pool
  if servesPlan db plan pool ∧ pool.isActive ∧ (a.status = .available ∨ a.status = .assigned) ∧
      notExpired now a then
    return (a, pool)
  else none

/-! ## Items of the cup -/

/-- The codes of the errors with which an asset is refused. -/
def selectionErrorCodes : List (String × String) :=
  [("Selected inventory asset does not belong to the selected pool.", "asset_pool_mismatch"),
    ("Selected inventory asset is not usable.", "asset_not_usable"),
    ("Selected inventory asset is expired.", "asset_expired"),
    ("Selected exclusive inventory asset is already assigned.", "exclusive_asset_assigned"),
    ("Selected shared inventory asset has no remaining allocation capacity.",
      "asset_allocation_limit_reached"),
    ("Selected inventory asset was not found.", "asset_not_found")]

/-- `_inventory_error_message`. -/
def inventoryErrorMessage (message : String) : String :=
  match selectionErrorCodes.lookup message with
  | some code => code ++ ": " ++ message
  | none => message

def addAllocatedItem (link : String) (allocation : ℕ) (c : Cup) : Cup :=
  { c with items := c.items ++ [{ link := link, allocation := some allocation }] }

theorem addAllocatedItem_pk (link : String) (allocation : ℕ) (c : Cup) :
    (addAllocatedItem link allocation c).pk = c.pk := rfl

/-- The allocations of the cup, whatever order they name. -/
def assignAllocation (order cup : ℕ) (a : ConfigAllocation) : ConfigAllocation :=
  if a.cup = some cup then { a with order := some order } else a

theorem assignAllocation_pk (order cup : ℕ) (a : ConfigAllocation) :
    (assignAllocation order cup a).pk = a.pk := by
  rw [assignAllocation]
  split <;> rfl

/-- The check of a raw link: its protocol is known, and a `reality` link has its key. -/
abbrev LinkCheck := String → Except String Unit

variable (checkLink : LinkCheck)

/-- `_create_cup_items_from_inventory_allocation`. -/
def createCupItems (cup : ℕ) (allocations : List ConfigAllocation) : ShopM Unit :=
  Prog.forEach allocations () fun allocation _ => do
    let asset ← Prog.readDb (·.assets.get? allocation.asset)
    let asset ← Prog.orRaise "ConfigInventoryAsset matching query does not exist." asset
    Prog.ofExcept (checkLink asset.rawLink)
    Prog.writeDb (·.setCup cup (addAllocatedItem asset.rawLink allocation.pk)
      (addAllocatedItem_pk asset.rawLink allocation.pk))

/-- `add_inventory_assets_to_cup` with one asset; it returns the error. -/
def addInventoryAssetToCup (now : Instant) (cup pool asset : ℕ) : ShopM (Option String) :=
  Prog.onError (Prog.atomic do
    let allocations ← allocateSelectedAssetsFromPool now (some pool) [asset] (some cup) none none
    createCupItems checkLink cup allocations
    return none) fun e => return some (inventoryErrorMessage e)

/-- The part of `complete_inventory_assignment` that puts the asset into the cup. -/
def assignInventoryAsset (now : Instant) (order asset : ℕ) : ShopM (Option String) := do
  let o ← getOrder order
  let db ← Prog.readDb id
  match assignmentAsset db now o.plan asset with
  | none => return some "کانفیگ موجودی این پلن پیدا نشد."
  | some (a, pool) => do
      let cup ← ensureCup order
      let error ← addInventoryAssetToCup checkLink now cup pool.pk a.pk
      if error.isNone then
        Prog.writeDb fun db => { db with
          allocations := db.allocations.map (assignAllocation order cup)
            (assignAllocation_pk order cup) }
      return error

/-! ## What an assignment leaves alone -/

variable {now : Instant} {k : ℕ}

theorem keepsBooks_allocateSelectedAssetsFromPool {pool : Option ℕ} {selected : List ℕ}
    {cup order : Option ℕ} {mode : Option AllocationMode} :
    Keeps Db.books (allocateSelectedAssetsFromPool now pool selected cup order mode) := by
  refine (keeps_readDb _).bind fun _ => (keeps_orRaise _ _).bind fun _ => ?_
  refine Keeps.ite (keeps_raise _) (Keeps.ite (keeps_raise _) (Keeps.ite (keeps_raise _) ?_))
  exact Keeps.ite (keeps_raise _) ((keeps_ofExcept _).bind fun _ => keepsBooks_writeAllocations)

theorem keepsBooks_createCupItems {cup : ℕ} {allocations : List ConfigAllocation} :
    Keeps Db.books (createCupItems checkLink cup allocations) := by
  refine Keeps.forEach fun _ _ => (keeps_readDb _).bind fun _ => (keeps_orRaise _ _).bind fun _ => ?_
  exact (keeps_ofExcept _).bind fun _ => keeps_writeDb fun _ => rfl

theorem keepsBooks_assignInventoryAsset {asset : ℕ} :
    Keeps Db.books (assignInventoryAsset checkLink now k asset) := by
  refine keepsBooks_getOrder.bind fun o => (keeps_readDb _).bind fun db => ?_
  split
  · exact keeps_pure _
  · refine keepsBooks_ensureCup.bind fun cup => Keeps.bind (Keeps.onError ?_ fun _ => keeps_pure _) ?_
    · refine Keeps.atomic (keepsBooks_allocateSelectedAssetsFromPool.bind fun _ => ?_)
      exact (keepsBooks_createCupItems checkLink).bind fun _ => keeps_pure _
    · intro error
      exact Keeps.ite ((keeps_writeDb (by exact fun _ => rfl)).bind fun _ => keeps_pure _) (keeps_pure _)

end Qasedak.Orders

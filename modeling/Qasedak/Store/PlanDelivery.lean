import Qasedak.Store.Model

/-! The rows that say how a plan is delivered: inventory pools, delivery configurations,
fulfillment recipes and subscription cups. -/

namespace Qasedak.Store

open Foundation

/-! ## Inventory -/

inductive AllocationMode where
  | exclusive
  | sharedLimited
  | sharedUnlimited
  deriving DecidableEq, Repr

inductive AssetStatus where
  | available
  | reserved
  | assigned
  | disabled
  | expired
  | burned
  deriving DecidableEq, Repr

structure InventoryPool where
  pk : ℕ
  connectedPlan : Option ℕ := none
  title : String := ""
  allocationMode : AllocationMode := .exclusive
  maxAllocationsPerAsset : Option ℕ := none
  isActive : Bool := true
  deriving DecidableEq, Repr

structure InventoryAsset where
  pk : ℕ
  pool : ℕ
  rawLink : String
  status : AssetStatus := .available
  expiresAt : Option Instant := none
  maxAllocations : Option ℕ := none
  currentAllocations : ℕ := 0
  deriving DecidableEq, Repr

structure ConfigAllocation where
  pk : ℕ
  asset : ℕ
  cup : Option ℕ := none
  order : Option ℕ := none
  allocationMode : AllocationMode
  /-- `status` is `ACTIVE`. -/
  isActive : Bool := true
  /-- `metadata["plan_delivery_source_id"]`. -/
  deliverySource : Option ℕ := none
  /-- `metadata["recipe_rule_id"]`. -/
  recipeRule : Option ℕ := none
  deriving DecidableEq, Repr

/-! ## Delivery configurations -/

inductive DeliveryMode where
  | globalFallback
  | directLinks
  | subscription
  deriving DecidableEq, Repr

inductive FailurePolicy where
  | strict
  | partialAllowed
  deriving DecidableEq, Repr

/-- What a source or a rule delivers from. -/
inductive SourceType where
  | panelInbound
  | inventoryPool
  deriving DecidableEq, Repr

/-- `PlanDeliveryConfig`, at most one for each plan. -/
structure DeliveryConfig where
  pk : ℕ
  plan : ℕ
  deliveryMode : DeliveryMode := .globalFallback
  failurePolicy : FailurePolicy := .strict
  active : Bool := true
  deriving DecidableEq, Repr

/-- `PlanDeliverySource`. -/
structure DeliverySource where
  pk : ℕ
  deliveryConfig : ℕ
  sourceType : SourceType
  panel : Option ℕ := none
  inbound : Option ℕ := none
  inventoryPool : Option ℕ := none
  quantity : ℕ := 1
  required : Bool := true
  priority : ℕ := 100
  isFallback : Bool := false
  active : Bool := true
  deriving DecidableEq, Repr

/-! ## Recipes and cups -/

/-- `CupFulfillmentRecipe`. -/
structure Recipe where
  pk : ℕ
  plan : ℕ
  isActive : Bool := true
  priority : ℕ := 100
  failurePolicy : FailurePolicy := .strict
  deriving DecidableEq, Repr

/-- `CupFillerRule`. -/
structure FillerRule where
  pk : ℕ
  recipe : ℕ
  position : ℕ := 1
  sourceType : SourceType
  quantity : ℕ := 1
  required : Bool := true
  panel : Option ℕ := none
  inbounds : List ℕ := []
  inventoryPool : Option ℕ := none
  allocationMode : Option AllocationMode := none
  isActive : Bool := true
  deriving DecidableEq, Repr

/-- A configuration link in a cup; the rule of a recipe or the sources of a delivery are those
that filled it in, from an allocation where they draw on an inventory. -/
structure CupItem where
  link : String
  rule : Option ℕ := none
  sources : List ℕ := []
  allocation : Option ℕ := none
  isActive : Bool := true
  deriving DecidableEq, Repr

/-- `SubscriptionCup`. -/
structure Cup where
  pk : ℕ
  order : Option ℕ := none
  vpnClient : Option ℕ := none
  items : List CupItem := []
  /-- `status` is `DISABLED`. -/
  isDisabled : Bool := false
  expiresAt : Option Instant := none
  deriving DecidableEq, Repr

/-- `is_accessible`. -/
def Cup.isAccessible (now : Instant) (c : Cup) : Bool :=
  !c.isDisabled && c.expiresAt.all (now < ·)

abbrev Pools := Table InventoryPool.pk
abbrev Assets := Table InventoryAsset.pk
abbrev Allocations := Table ConfigAllocation.pk
abbrev DeliveryConfigs := Table DeliveryConfig.pk
abbrev DeliverySources := Table DeliverySource.pk
abbrev Recipes := Table Recipe.pk
abbrev Rules := Table FillerRule.pk
abbrev Cups := Table Cup.pk

end Qasedak.Store

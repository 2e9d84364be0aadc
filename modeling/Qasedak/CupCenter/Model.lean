import Qasedak.Orders.Assignment
import Qasedak.Subscriptions.Model

/-! The cups that administrators put together by hand: their items, the config links that the
items show, and the inventory that the links are drawn from. -/

namespace Qasedak.CupCenter

open Foundation Store Orders
open Subscriptions (SubscriptionCup SubscriptionCups)

/-! ## Rows -/

/-- `metadata["allocation_id"]` and `metadata["asset_id"]` of a link or an item. -/
structure InventoryIdentity where
  allocation : Option ℕ := none
  asset : Option ℕ := none
  deriving DecidableEq, Repr

structure ConfigLink where
  pk : ℕ
  rawLink : String
  normalizedHash : String := ""
  isActive : Bool := true
  metadata : InventoryIdentity := {}
  deriving DecidableEq, Repr

structure CupItem where
  pk : ℕ
  cup : ℕ
  configLink : ℕ
  position : ℕ := 0
  isActive : Bool := true
  metadata : InventoryIdentity := {}
  deriving DecidableEq, Repr

abbrev ConfigLinks := Table ConfigLink.pk
abbrev CupItems := Table CupItem.pk

/-- The inventory, the cups and what is in them, at a time. -/
structure Center where
  stock : Shop
  now : Instant
  cups : SubscriptionCups
  links : ConfigLinks := .empty
  items : CupItems := .empty

/-- `parse_config_link` as far as it is used: whether a link is served, and what it is
compared by. -/
structure LinkFormat where
  check : LinkCheck
  normalizedHash : String → String

/-! ## What a cup serves -/

namespace Center

variable (c : Center)

/-- `cup.is_accessible`. -/
def isAccessible (cup : ℕ) : Bool := (c.cups.get? cup).any (·.isAccessible c.now)

end Center

/-! ## Items and links -/

/-- `_next_position`. -/
def Center.nextPosition (c : Center) (cup : ℕ) : ℕ :=
  ((c.items.rows.filter (·.cup = cup)).map (·.position)).foldr max 0 + 1

def newItem (c : Center) (cup link position : ℕ) (metadata : InventoryIdentity) : CupItem where
  pk := c.items.nextKey
  cup := cup
  configLink := link
  position := position
  metadata := metadata

theorem newItem_pk (c : Center) (cup link position : ℕ) (metadata : InventoryIdentity) :
    (newItem c cup link position metadata).pk = c.items.nextKey := rfl

def Center.addItem (c : Center) (cup link position : ℕ) (metadata : InventoryIdentity) : Center :=
  { c with
    items := c.items.insert (newItem c cup link position metadata)
      (newItem_pk c cup link position metadata) }

variable (format : LinkFormat)

/-- `create_config_link_from_raw`. -/
def newLink (c : Center) (rawLink : String) (metadata : InventoryIdentity) : ConfigLink where
  pk := c.links.nextKey
  rawLink := rawLink
  normalizedHash := format.normalizedHash rawLink
  metadata := metadata

theorem newLink_pk (c : Center) (rawLink : String) (metadata : InventoryIdentity) :
    (newLink format c rawLink metadata).pk = c.links.nextKey := rfl

def Center.createLink (c : Center) (rawLink : String) (metadata : InventoryIdentity) : Center :=
  { c with
    links := c.links.insert (newLink format c rawLink metadata)
      (newLink_pk format c rawLink metadata) }

/-- A new link with an item that shows it. -/
def Center.addLink (c : Center) (cup position : ℕ) (rawLink : String)
    (metadata : InventoryIdentity) : Center :=
  (c.createLink format rawLink metadata).addItem cup c.links.nextKey position metadata

/-! ## Existing links -/

structure AddLinksResult where
  requestedCount : ℕ := 0
  foundCount : ℕ := 0
  addedCount : ℕ := 0
  duplicateCount : ℕ := 0
  deriving DecidableEq, Repr

/-- `existing_hashes`. -/
def Center.existingHashes (c : Center) (cup : ℕ) : List String :=
  ((c.items.rows.filter (·.cup = cup)).filterMap fun x =>
    (c.links.get? x.configLink).map (·.normalizedHash)).filter (· ≠ "")

/-- The links whose hash the cup has already, those before them included. -/
def duplicateCount : List ConfigLink → List String → ℕ
  | [], _ => 0
  | l :: links, hashes =>
      (if l.normalizedHash ≠ "" ∧ l.normalizedHash ∈ hashes then 1 else 0) +
        duplicateCount links (l.normalizedHash :: hashes)

/-- The loop of `add_existing_links_to_cup`. -/
def attachLinks (cup : ℕ) : List ConfigLink → ℕ → Center → Center
  | [], _, c => c
  | l :: links, position, c =>
      attachLinks cup links (position + 1) (c.addItem cup l.pk position {})

/-- `add_existing_links_to_cup`. -/
def addExistingLinksToCup (cup : ℕ) (ids : List ℕ) (c : Center) : AddLinksResult × Center :=
  let links := (c.links.rows.filter (·.pk ∈ ids)).insertionSort fun a b => a.pk ≤ b.pk
  if ids = [] then ({}, c)
  else
    ({ requestedCount := ids.length
       foundCount := links.length
       addedCount := links.length
       duplicateCount := duplicateCount links (c.existingHashes cup) },
      attachLinks cup links (c.nextPosition cup) c)

/-! ## Inventory -/

/-- The text of an error of the programs that draw on the inventory. -/
def haltMessage : Halt String → String
  | .raised e => e
  | .crashed => ""

/-- The loop of `_create_cup_items_from_inventory_allocation`. -/
def createCupItems (cup : ℕ) : List ConfigAllocation → ℕ → Center → Except String Center
  | [], _, c => .ok c
  | a :: allocations, position, c =>
      match c.stock.db.assets.get? a.asset with
      | none => .error "ConfigInventoryAsset matching query does not exist."
      | some asset =>
          match format.check asset.rawLink with
          | .error e => .error e
          | .ok () =>
              createCupItems cup allocations (position + 1)
                (c.addLink format cup position asset.rawLink
                  { allocation := some a.pk, asset := some a.asset })

/-- An allocation for a cup and its items, in one transaction. -/
def drawItems (cup : ℕ) (allocate : ShopM (List ConfigAllocation)) (c : Center) :
    Except String (List ConfigAllocation × Center) :=
  match allocate c.stock with
  | (.error h, _) => .error (haltMessage h)
  | (.ok allocations, stock) =>
      match createCupItems format cup allocations (c.nextPosition cup) { c with stock := stock } with
      | .error e => .error e
      | .ok c' => .ok (allocations, c')

structure AddInventoryAssetsResult where
  requestedCount : ℕ := 0
  allocatedCount : ℕ := 0
  addedCount : ℕ := 0
  rejectedCount : ℕ := 0
  errors : List String := []
  deriving DecidableEq, Repr

/-- `add_inventory_assets_to_cup`. -/
def addInventoryAssetsToCup (cup pool : ℕ) (ids : List ℕ) (c : Center) :
    AddInventoryAssetsResult × Center :=
  if ids = [] then ({}, c)
  else
    match drawItems format cup
        (allocateSelectedAssetsFromPool c.now (some pool) ids (some cup) none none) c with
    | .error e =>
        ({ requestedCount := ids.length, rejectedCount := ids.length
           errors := [inventoryErrorMessage e] }, c)
    | .ok (allocations, c') =>
        ({ requestedCount := ids.length
           allocatedCount := allocations.length
           addedCount := allocations.length
           rejectedCount := ids.length - allocations.length }, c')

/-! ## Quick builds -/

/-- What a pool contributes: so many assets, or those that were chosen. -/
inductive SelectionSource where
  | automatic (quantity : ℕ)
  | manual (assets : List ℕ)
  deriving DecidableEq, Repr

structure QuickBuildRequest where
  token : String
  expiresAt : Option Instant := none
  /-- The direct links that each group of inbounds came back with; none where it failed. -/
  groups : List (Option (List String)) := []
  inventoryQuantity : ℕ := 1
  /-- The pools with their selections. -/
  selections : List (ℕ × SelectionSource) := []
  deriving DecidableEq, Repr

/-- The links of the panel groups, at positions of their own count. -/
def addPanelLinks (cup : ℕ) : List String → ℕ → Center → Center
  | [], _, c => c
  | raw :: links, position, c =>
      addPanelLinks cup links (position + 1) (c.addLink format cup position raw {})

def Center.allocateSelection (c : Center) (cup inventoryQuantity : ℕ) (pool : ℕ) :
    SelectionSource → ShopM (List ConfigAllocation)
  | .manual assets =>
      allocateSelectedAssetsFromPool c.now (some pool) assets (some cup) none none
  | .automatic quantity =>
      allocateAssetsFromPool c.now (some pool)
        (if quantity = 0 then inventoryQuantity else quantity) (some cup) none none

/-- The loop over the pools; one that fails leaves nothing. -/
def drawSelections (cup inventoryQuantity : ℕ) :
    List (ℕ × SelectionSource) → Center → Center
  | [], c => c
  | (pool, source) :: selections, c =>
      match drawItems format cup (c.allocateSelection cup inventoryQuantity pool source) c with
      | .error _ => drawSelections cup inventoryQuantity selections c
      | .ok (_, c') => drawSelections cup inventoryQuantity selections c'

def newCup (c : Center) (request : QuickBuildRequest) : SubscriptionCup where
  pk := c.cups.nextKey
  token := request.token
  expiresAt := request.expiresAt

theorem newCup_pk (c : Center) (request : QuickBuildRequest) :
    (newCup c request).pk = c.cups.nextKey := rfl

def Center.createCup (c : Center) (request : QuickBuildRequest) : Center :=
  { c with cups := c.cups.insert (newCup c request) (newCup_pk c request) }

/-- `quick_build_multi_panel_subscription_cup`. -/
def quickBuild (request : QuickBuildRequest) (c : Center) : Except String Center :=
  if request.groups = [] ∧ request.selections = [] then
    .error "حداقل یک اینباند یا یک مخزن کانفیگ آماده انتخاب کنید."
  else
    let cup := c.cups.nextKey
    let filled := addPanelLinks format cup (request.groups.filterMap id).flatten 1
      (c.createCup request)
    .ok (drawSelections format cup request.inventoryQuantity request.selections filled)

/-! ## One item -/

/-- `CupItem.objects.get(cup=cup, pk=item_id)`. -/
def Center.getItem (c : Center) (cup item : ℕ) : Option CupItem :=
  (c.items.get? item).filter (·.cup = cup)

def setActive (isActive : Bool) (x : CupItem) : CupItem := { x with isActive := isActive }

theorem setActive_pk (isActive : Bool) (x : CupItem) : (setActive isActive x).pk = x.pk := rfl

/-- `set_cup_item_active`. -/
def setCupItemActive (cup item : ℕ) (isActive : Bool) (c : Center) : Except String Center :=
  match c.getItem cup item with
  | none => .error "CupItem matching query does not exist."
  | some _ =>
      .ok { c with items := c.items.modify item (setActive isActive) (setActive_pk isActive) }

/-- `_item_inventory_identity`. -/
def Center.itemInventoryIdentity (c : Center) (x : CupItem) : InventoryIdentity :=
  if x.metadata ≠ {} then x.metadata
  else ((c.links.get? x.configLink).map (·.metadata)).getD {}

/-- `release_inventory_allocation_for_cup_item`. -/
def releaseForItem (x : CupItem) (c : Center) : Center :=
  let identity := c.itemInventoryIdentity x
  { c with stock := (releaseInventoryAllocation x.cup identity.allocation identity.asset c.stock).2 }

/-- `remove_cup_item`. -/
def removeCupItem (cup item : ℕ) (c : Center) : Except String Center :=
  match c.getItem cup item with
  | none => .error "CupItem matching query does not exist."
  | some x =>
      let released := releaseForItem x c
      .ok { released with items := released.items.erase item }

def setLink (link : ℕ) (x : CupItem) : CupItem := { x with configLink := link }

theorem setLink_pk (link : ℕ) (x : CupItem) : (setLink link x).pk = x.pk := rfl

/-- `replace_cup_item_config_link`; the item keeps its metadata. -/
def replaceCupItemConfigLink (cup item link : ℕ) (c : Center) : Except String Center :=
  match c.getItem cup item, c.links.get? link with
  | none, _ => .error "CupItem matching query does not exist."
  | some _, none => .error "ConfigLink matching query does not exist."
  | some x, some _ =>
      let released := releaseForItem x c
      .ok { released with items := released.items.modify item (setLink link) (setLink_pk link) }

/-! ## Runs -/

/-- What administrators do with cups, and what else draws on the pools; time goes by. -/
inductive CenterOp where
  | addInventoryAssets (cup pool : ℕ) (assets : List ℕ)
  | addExistingLinks (cup : ℕ) (links : List ℕ)
  | quickBuild (request : QuickBuildRequest)
  | setItemActive (cup item : ℕ) (isActive : Bool)
  | replaceLink (cup item link : ℕ)
  | removeItem (cup item : ℕ)
  | allocate (pool : Option ℕ) (quantity : ℕ) (cup order : Option ℕ) (mode : Option AllocationMode)
  | allocateSelected (pool : Option ℕ) (assets : List ℕ) (cup order : Option ℕ)
      (mode : Option AllocationMode)
  | wait (time : ℕ)
  deriving DecidableEq, Repr

/-- The state after an operation, which may have raised. -/
def Center.orSelf (c : Center) : Except String Center → Center
  | .error _ => c
  | .ok c' => c'

/-- `get_object_or_404(SubscriptionCup, ...)` comes before what is done to a cup. -/
def Center.inCup (c : Center) (cup : ℕ) (c' : Center) : Center :=
  if (c.cups.get? cup).isSome then c' else c

def centerStep (c : Center) : CenterOp → Center
  | .addInventoryAssets cup pool assets =>
      c.inCup cup (addInventoryAssetsToCup format cup pool assets c).2
  | .addExistingLinks cup links => c.inCup cup (addExistingLinksToCup cup links c).2
  | .quickBuild request => c.orSelf (quickBuild format request c)
  | .setItemActive cup item isActive => c.orSelf (setCupItemActive cup item isActive c)
  | .replaceLink cup item link => c.orSelf (replaceCupItemConfigLink cup item link c)
  | .removeItem cup item => c.orSelf (removeCupItem cup item c)
  | .allocate pool quantity cup order mode =>
      { c with stock := (allocateAssetsFromPool c.now pool quantity cup order mode c.stock).2 }
  | .allocateSelected pool assets cup order mode =>
      { c with
        stock := (allocateSelectedAssetsFromPool c.now pool assets cup order mode c.stock).2 }
  | .wait time => { c with now := c.now + time }

end Qasedak.CupCenter

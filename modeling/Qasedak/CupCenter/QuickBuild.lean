import Qasedak.CupCenter.Model

/-! `quick_build_multi_panel_subscription_cup` with what it reports: the lists of links and items
and the count of positions are Python's own, and outlive the transaction they were changed in. -/

namespace Qasedak.CupCenter

open Foundation Store Orders

/-! ## The request -/

/-- A database error at an entry of a transaction, from 0, with its text. -/
structure StoreFailure where
  entry : ℕ
  message : String := ""
  deriving DecidableEq, Repr

/-- The inbounds of a panel that were selected, and how the panel takes it. -/
structure PanelGroup where
  inbounds : List ℕ
  selected : inbounds ≠ []
  /-- The error of the capability report, of the checks or of the remote create. -/
  refusal : Option String := none
  /-- What the panel answers for each of the inbounds, in their order. -/
  directLinks : List String := []
  failure : Option StoreFailure := none
  deriving DecidableEq, Repr

/-- The `direct_link` of `_direct_link_entries_from_remote`, for each inbound one. -/
def PanelGroup.entries (g : PanelGroup) : List String :=
  g.inbounds.zipIdx.map fun x => strip (g.directLinks.getD x.2 "")

/-- `_selected_sources_count` of a selection, and its `requested_quantity`. -/
def SelectionSource.requested : SelectionSource → ℕ
  | .automatic quantity => quantity
  | .manual assets => assets.length

def SelectionSource.IsManual (source : SelectionSource) : Prop := ∃ assets, source = .manual assets

instance (source : SelectionSource) : Decidable source.IsManual :=
  match source with
  | .automatic _ => .isFalse fun ⟨_, h⟩ => by cases h
  | .manual assets => .isTrue ⟨assets, rfl⟩

/-- A pool with its selection, for which the form takes nothing below 1. -/
structure InventorySelection where
  pool : ℕ
  source : SelectionSource
  asked : 0 < source.requested
  failure : Option StoreFailure := none
  deriving DecidableEq, Repr

structure BuildRequest where
  token : String
  expiresAt : Option Instant := none
  groups : List PanelGroup := []
  inventoryQuantity : ℕ := 1
  selections : List InventorySelection := []
  deriving DecidableEq, Repr

/-! ## The report -/

/-- The entries of `_quick_inbound_detail`. -/
structure InboundDetail where
  inbound : ℕ
  createdCupItem : Bool
  error : String := ""
  deriving DecidableEq, Repr

structure PanelResult where
  createSuccess : Bool
  success : Bool
  linkCount : ℕ := 0
  inboundResults : List InboundDetail
  errors : List String := []
  deriving DecidableEq, Repr

structure InventoryResult where
  pool : ℕ
  requestedQuantity : ℕ
  success : Bool
  allocatedCount : ℕ := 0
  cupItemCount : ℕ := 0
  rejectedCount : ℕ
  errors : List String := []
  deriving DecidableEq, Repr

inductive QuickStatus where
  | success
  | partialWithWarnings
  | failed
  deriving DecidableEq, Repr

/-- The lists and counters of the function while it runs, with the database. -/
structure Build where
  center : Center
  position : ℕ := 1
  configLinks : List ℕ := []
  cupItems : List ℕ := []

structure QuickBuildReport where
  cup : ℕ
  configLinks : List ℕ
  cupItems : List ℕ
  panelResults : List PanelResult
  inventoryResults : List InventoryResult
  selectedSourcesCount : ℕ
  cupItemsCreated : ℕ
  failedRejectedSkippedCount : ℕ
  status : QuickStatus
  deriving DecidableEq, Repr

/-! ## Panel groups -/

section

variable (format : LinkFormat) (cup : ℕ)

/-- A pass of the loop over the entries of a group. -/
def Build.append (b : Build) (raw : String) : Build where
  center := b.center.addLink format cup b.position raw {}
  position := b.position + 1
  configLinks := b.configLinks ++ [b.center.links.nextKey]
  cupItems := b.cupItems ++ [b.center.items.nextKey]

/-- The loop over the entries, up to the one at which the database fails. -/
def storeEntries : Option ℕ → List String → Build → Bool × Build
  | _, [], b => (true, b)
  | some 0, _ :: _, b => (false, b)
  | failure, raw :: links, b => storeEntries (failure.map (· - 1)) links (b.append format cup raw)

/-- The loop in its transaction, which takes back the rows and nothing else. -/
def storeGroup (failure : Option ℕ) (links : List String) (b : Build) : Bool × Build :=
  match storeEntries format cup failure links b with
  | (true, b') => (true, b')
  | (false, b') => (false, { b' with center := b.center })

/-- The result of a group of which nothing was stored. -/
def PanelGroup.rejected (g : PanelGroup) (createSuccess : Bool) (error : String) : PanelResult where
  createSuccess := createSuccess
  success := false
  inboundResults := g.inbounds.map fun k => ⟨k, false, error⟩
  errors := [error]

def PanelGroup.stored (g : PanelGroup) : PanelResult where
  createSuccess := true
  success := true
  linkCount := g.entries.length
  inboundResults := g.inbounds.map fun k => ⟨k, true, ""⟩

-- `_link_has_reality_without_public_key`.
variable (lacksPublicKey : String → Bool)

/-- A pass of the loop over the panel groups. -/
def buildGroup (g : PanelGroup) (b : Build) : PanelResult × Build :=
  match g.refusal with
  | some error => (g.rejected false error, b)
  | none =>
      if "" ∈ g.entries then
        (g.rejected true "پنل client را ساخت اما همه لینک‌های مستقیم قابل ذخیره را برنگرداند.", b)
      else if g.entries.any lacksPublicKey then
        (g.rejected true "Reality public key برای ساخت لینک پیدا نشد.", b)
      else
        match storeGroup format cup (g.failure.map (·.entry)) g.entries b with
        | (true, b') => (g.stored, b')
        | (false, b') => (g.rejected true ((g.failure.map (·.message)).getD ""), b')

def buildGroups : List PanelGroup → Build → List PanelResult × Build
  | [], b => ([], b)
  | g :: groups, b =>
      let (result, b') := buildGroup format cup lacksPublicKey g b
      let (results, b'') := buildGroups groups b'
      (result :: results, b'')

/-! ## Inventory -/

/-- The result of a selection of which nothing was stored. -/
def InventorySelection.rejected (s : InventorySelection) (error : String) : InventoryResult where
  pool := s.pool
  requestedQuantity := s.source.requested
  success := false
  rejectedCount := s.source.requested
  errors := [error]

def InventorySelection.stored (s : InventorySelection) (items : ℕ) : InventoryResult where
  pool := s.pool
  requestedQuantity := s.source.requested
  success := true
  allocatedCount := items
  cupItemCount := items
  rejectedCount := s.source.requested - items

/-- `INVENTORY_NO_CUPITEM_ERROR` and `MANUAL_INVENTORY_NO_CUPITEM_ERROR`. -/
def noCupItemError (source : SelectionSource) : String :=
  if source.IsManual then "هیچ‌کدام از کانفیگ‌های انتخاب‌شده از مخزن وارد Cup نشدند."
  else "هیچ کانفیگی از مخزن وارد Cup نشد. انتخاب‌ها یا ظرفیت‌ها را بررسی کنید."

/-- The links and the items of a selection join the lists once all of it is stored. -/
def Build.extend (b : Build) (c' : Center) : Build :=
  { b with
    center := c'
    configLinks := b.configLinks ++
      (c'.links.rows.drop b.center.links.rows.length).map (·.pk)
    cupItems := b.cupItems ++ (c'.items.rows.drop b.center.items.rows.length).map (·.pk) }

/-- A pass of the loop over the pools. -/
def buildSelection (inventoryQuantity : ℕ) (s : InventorySelection) (b : Build) :
    InventoryResult × Build :=
  match drawItems format cup
      (b.center.allocateSelection cup inventoryQuantity s.pool s.source) b.center with
  | .error error => (s.rejected error, b)
  | .ok (allocations, c') =>
      match s.failure.filter (·.entry < allocations.length) with
      | some failure => (s.rejected failure.message, b)
      | none =>
          if s.source.requested ≠ 0 ∧ allocations = [] then
            (s.rejected (noCupItemError s.source), b)
          else if s.source.IsManual ∧ allocations.length ≠ s.source.requested then
            (s.rejected (noCupItemError s.source), b)
          else (s.stored allocations.length, b.extend c')

def buildSelections (inventoryQuantity : ℕ) :
    List InventorySelection → Build → List InventoryResult × Build
  | [], b => ([], b)
  | s :: selections, b =>
      let (result, b') := buildSelection format cup inventoryQuantity s b
      let (results, b'') := buildSelections inventoryQuantity selections b'
      (result :: results, b'')

/-! ## The whole build -/

/-- `_selected_sources_count`. -/
def selectedSourcesCount (request : BuildRequest) : ℕ :=
  (request.groups.map (·.inbounds.length)).sum +
    (request.selections.map (·.source.requested)).sum

/-- `failed_inbounds`. -/
def failedInbounds (results : List PanelResult) : ℕ :=
  (results.map fun r => (r.inboundResults.filter fun d => d.createdCupItem = false).length).sum

/-- `rejected_manual_assets` and `failed_auto_pick_assets`. -/
def rejectedAssets (results : List InventoryResult) : ℕ := (results.map (·.rejectedCount)).sum

/-- The status of `_build_quick_reconciliation`. -/
def quickStatus (selected created failed : ℕ) : QuickStatus :=
  if 0 < selected ∧ created = 0 then .failed
  else if 0 < created ∧ 0 < failed then .partialWithWarnings
  else .success

/-- `_build_quick_reconciliation`, with the rest of the result. -/
def buildQuickReconciliation (request : BuildRequest) (panelResults : List PanelResult)
    (inventoryResults : List InventoryResult) (b : Build) : QuickBuildReport :=
  let selected := selectedSourcesCount request
  let failed := failedInbounds panelResults + rejectedAssets inventoryResults
  { cup := cup
    configLinks := b.configLinks
    cupItems := b.cupItems
    panelResults := panelResults
    inventoryResults := inventoryResults
    selectedSourcesCount := selected
    cupItemsCreated := b.cupItems.length
    failedRejectedSkippedCount := failed
    status := quickStatus selected b.cupItems.length failed }

end

def newBuildCup (c : Center) (request : BuildRequest) : Subscriptions.SubscriptionCup where
  pk := c.cups.nextKey
  token := request.token
  expiresAt := request.expiresAt

theorem newBuildCup_pk (c : Center) (request : BuildRequest) :
    (newBuildCup c request).pk = c.cups.nextKey := rfl

def Center.createBuildCup (c : Center) (request : BuildRequest) : Center :=
  { c with cups := c.cups.insert (newBuildCup c request) (newBuildCup_pk c request) }

/-- `quick_build_multi_panel_subscription_cup`. -/
def quickBuildMultiPanel (format : LinkFormat) (lacksPublicKey : String → Bool)
    (request : BuildRequest) (c : Center) : Except String (QuickBuildReport × Center) :=
  if request.groups = [] ∧ request.selections = [] then
    .error "حداقل یک اینباند یا یک مخزن کانفیگ آماده انتخاب کنید."
  else
    let cup := c.cups.nextKey
    let (panelResults, b) := buildGroups format cup lacksPublicKey request.groups
      { center := c.createBuildCup request }
    let (inventoryResults, b') := buildSelections format cup request.inventoryQuantity
      request.selections b
    .ok (buildQuickReconciliation cup request panelResults inventoryResults b', b'.center)

end Qasedak.CupCenter

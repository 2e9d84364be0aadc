import Qasedak.Orders.Inventory
import Qasedak.Orders.ModernActivation

/-! `execute_plan_delivery`: the delivery of a plan from its configured sources. The feeds
that renew a subscription from outside are not modelled. -/

namespace Qasedak.Orders

open Foundation Store Panels

variable (platform : Platform)

/-! ## Sources -/

/-- `SourceExecutionResult`. -/
structure SourceResult where
  required : Bool
  ok : Bool := false
  links : List DeliveredLink := []
  clients : List ℕ := []
  errors : List String := []
  deriving DecidableEq, Repr

/-- What the sources of a group deliver, or the error that stopped them. -/
def sourceResult (required : Bool) : Except String (List DeliveredLink × List ℕ) → SourceResult
  | .ok (links, clients) =>
      { required := required, ok := links ≠ [], links := links, clients := clients }
  | .error e => { required := required, errors := [e] }

def sourceInbound (db : Db) (source : DeliverySource) : Option Inbound :=
  source.inbound.bind db.inbounds.get?

/-- `source.panel or source.inbound.panel`. -/
def sourcePanel (db : Db) (source : DeliverySource) : Option Panel :=
  (source.panel.bind db.panels.get?) <|>
    (sourceInbound db source).bind fun i => db.panels.get? i.panel

/-- `active_delivery_sources`. -/
def activeDeliverySources (db : Db) (config : ℕ) : List DeliverySource :=
  let active := db.deliverySources.rows.filter fun s => s.deliveryConfig = config ∧ s.active
  active.insertionSort fun s t =>
    s.priority < t.priority ∨ s.priority = t.priority ∧ s.pk ≤ t.pk

/-- `_validate_panel_inbound`. -/
def validatePanelInbound : Option Inbound → Except String Inbound
  | none => .error "missing_panel_inbound"
  | some i =>
      if i.isReality ∧ i.pbk = "" then .error "reality_missing_public_key" else .ok i

/-- The inbounds of a bundle, all of them valid. -/
def validateSourceInbounds (db : Db) : List DeliverySource → Except String (List Inbound)
  | [] => .ok []
  | s :: sources =>
      match validatePanelInbound (sourceInbound db s), validateSourceInbounds db sources with
      | .error e, _ => .error e
      | .ok _, .error e => .error e
      | .ok i, .ok inbounds => .ok (i :: inbounds)

/-- The direct link of a client, if it has one. -/
def directLinkOf (source : ℕ) (result : ClientResult) : List DeliveredLink :=
  if strip result.directLink = "" then []
  else [{ rawLink := strip result.directLink, sources := [source] }]

/-- `max(max(int(source.quantity or 1) for source in sources), 1)`. -/
def groupQuantity (sources : List DeliverySource) : ℕ :=
  (sources.map (·.quantity)).foldr max 1

/-- The clients of a group in turn, with their links. -/
def deliverClients (indices : List ℕ) (client : ℕ → ShopM (List DeliveredLink × ℕ)) :
    ShopM (List DeliveredLink × List ℕ) :=
  Prog.forEach indices ([], []) fun index delivered => do
    let (links, k) ← client index
    return (delivered.1 ++ links, delivered.2 ++ [k])

/-- `_execute_single_panel_source`. -/
def executeSinglePanelSource (now : Instant) (o : Order) (source : DeliverySource) :
    ShopM SourceResult := do
  let outcome ← Prog.caught do
    let db ← Prog.readDb id
    let i ← Prog.ofExcept (validatePanelInbound (sourceInbound db source))
    let p ← Prog.orRaise "missing_panel_inbound" (sourcePanel db source)
    let plan ← getPlan o.plan
    deliverClients (List.range' 1 (groupQuantity [source])) fun index => do
      let result ← ensureClient platform now p i plan
        (orderIdentity platform db o i (source.pk * 1000 + index))
      let (k, _) ← upsertLocalClient now o plan i result
      return (directLinkOf source.pk result, k)
  return sourceResult source.required outcome

/-- `preview_external_subscription_filter` on the links of a user. -/
def selectLinks (dynamicSubscription : Bool) (source : DeliverySource) (raw : List String) :
    Except String (List String) :=
  if ¬ dynamicSubscription then .ok raw
  else if platform.selectedConfigs source.pk raw = [] then
    .error "pasarguard_dynamic_subscription_filter_empty"
  else .ok (platform.selectedConfigs source.pk raw)

/-- The checks of `_execute_pasarguard_panel_group`. -/
def checkPasarguardGroup (p : Panel) (inbounds : List Inbound) : Except String Unit :=
  if p.family ≠ .pasarguard then .error "pasarguard_panel_required"
  else if inbounds = [] then .error "pasarguard_group_required"
  else if inbounds.any (·.panel ≠ p.pk) then .error "pasarguard_cross_panel_group_selection"
  else .ok ()

/-- `_execute_pasarguard_panel_group`; the first source of the group is `first`. -/
def executePasarguardPanelGroup (now : Instant) (o : Order) (dynamicSubscription : Bool)
    (first : DeliverySource) (sources : List DeliverySource) : ShopM SourceResult := do
  let outcome ← Prog.caught do
    let db ← Prog.readDb id
    let p ← Prog.orRaise "pasarguard_panel_required" (sourcePanel db first)
    let inbounds := sources.filterMap (sourceInbound db)
    Prog.ofExcept (checkPasarguardGroup p inbounds)
    let inbound ← Prog.orRaise "pasarguard_group_required" inbounds.head?
    let plan ← getPlan o.plan
    deliverClients (List.range' 1 (groupQuantity sources)) fun index => do
      let (result, raw) ← ensureUserLinks platform now p inbounds plan
        (multiInboundOrderIdentity platform db o inbounds index)
        "pasarguard_raw_subscription_empty"
      let (k, _) ← recordUser now o plan inbounds inbound result
      let links ← Prog.ofExcept (selectLinks platform dynamicSubscription first raw)
      return (links.map fun link => { rawLink := link, sources := sources.map (·.pk) }, k)
  return sourceResult (sources.any (·.required)) outcome

/-- `_execute_multi_panel_group`. -/
def executeMultiPanelGroup (now : Instant) (o : Order) (first : DeliverySource)
    (sources : List DeliverySource) : ShopM SourceResult := do
  let outcome ← Prog.caught do
    let db ← Prog.readDb id
    let inbounds ← Prog.ofExcept (validateSourceInbounds db sources)
    let p ← Prog.orRaise "missing_panel_inbound" (sourcePanel db first)
    let inbound ← Prog.orRaise "missing_panel_inbound" inbounds.head?
    let plan ← getPlan o.plan
    deliverClients (List.range' 1 (groupQuantity sources)) fun index => do
      let verified ← ensureBundle platform now p inbounds plan
        (multiInboundOrderIdentity platform db o inbounds index)
      let result ← Prog.orRaise "list index out of range" verified.head?
      let (k, _) ← upsertLocalClient now o plan inbound result
      return ((sources.zip verified).flatMap fun (t, r) => directLinkOf t.pk r, k)
  return sourceResult (sources.any (·.required)) outcome

/-- The sources by their panel, in the order of the first source of each. -/
def groupByPanel (db : Db) (sources : List DeliverySource) : List (List DeliverySource) :=
  let key := fun s : DeliverySource => (sourcePanel db s).map (·.pk)
  let keys := (sources.map key).reverse.dedup.reverse
  keys.map fun k => sources.filter fun s => key s = k

/-- One group of `_execute_panel_sources`; its sources are in the order of their query. -/
def executePanelGroup (now : Instant) (o : Order) (dynamicSubscription : Bool)
    (sources : List DeliverySource) (results : List SourceResult) :
    ShopM (List SourceResult) := do
  let db ← Prog.readDb id
  match sources with
  | [] => return results
  | first :: rest => do
      let p ← Prog.orRaise "'NoneType' object has no attribute 'panel'" (sourcePanel db first)
      if p.family = .pasarguard then do
        let result ← executePasarguardPanelGroup platform now o dynamicSubscription first
          (first :: rest)
        return results ++ [result]
      else if rest ≠ [] ∧ p.capabilityProfile = .modernMultiNode then do
        let result ← executeMultiPanelGroup platform now o first (first :: rest)
        return results ++ [result]
      else
        Prog.forEach (first :: rest) results fun source results => do
          let result ← executeSinglePanelSource platform now o source
          return results ++ [result]

/-- `metadata["plan_delivery_source_id"]` of an allocation. -/
def labelSource (source : ℕ) (a : ConfigAllocation) : ConfigAllocation :=
  { a with deliverySource := some source }

theorem labelSource_pk (source : ℕ) (a : ConfigAllocation) : (labelSource source a).pk = a.pk :=
  rfl

/-- The link of an allocation, if its asset has one. -/
def allocatedLink (db : Db) (source : ℕ) (a : ConfigAllocation) : List DeliveredLink :=
  let raw := strip (((db.assets.get? a.asset).map (·.rawLink)).getD "")
  if raw = "" then [] else [{ rawLink := raw, sources := [source], allocation := some a.pk }]

/-- `_execute_inventory_source`. -/
def executeInventorySource (now : Instant) (o : Order) (source : DeliverySource) :
    ShopM SourceResult := do
  let outcome ← Prog.caught do
    let allocations ← topUpAllocations now source.inventoryPool source.quantity none (some o.pk)
      none (fun a => a.order = some o.pk ∧ a.deliverySource = some source.pk ∧ a.isActive)
      (labelSource source.pk) (labelSource_pk source.pk)
    let db ← Prog.readDb id
    return (allocations.flatMap (allocatedLink db source.pk), [])
  return sourceResult source.required outcome

/-- `_execute_sources`. -/
def executeSources (now : Instant) (o : Order) (dynamicSubscription : Bool)
    (sources : List DeliverySource) : ShopM (List SourceResult) := do
  let db ← Prog.readDb id
  let panelSources := sources.filter (·.sourceType = .panelInbound)
  let inventorySources := sources.filter (·.sourceType = .inventoryPool)
  let results ← Prog.forEach (groupByPanel db panelSources) []
    (executePanelGroup platform now o dynamicSubscription)
  Prog.forEach inventorySources results fun source results => do
    let result ← executeInventorySource now o source
    return results ++ [result]

/-- `_should_use_fallback`. -/
def shouldUseFallback (results : List SourceResult) : Bool :=
  results = [] || !results.any (·.ok) || results.any (·.errors ≠ [])

/-- The sources of a configuration, and its fallbacks where they are needed. -/
def executeConfiguredSources (now : Instant) (o : Order) (dynamicSubscription : Bool)
    (sources : List DeliverySource) : ShopM (List SourceResult) := do
  let fallbacks := sources.filter (·.isFallback)
  let results ← executeSources platform now o dynamicSubscription
    (sources.filter (!·.isFallback))
  if fallbacks ≠ [] ∧ shouldUseFallback results then do
    let more ← executeSources platform now o dynamicSubscription fallbacks
    return results ++ more
  else return results

/-! ## The order -/

/-- `_mark_order_provisioning`. -/
def markOrderProvisioning (o : Order) : Order :=
  { markProvisioning o with
    isPaid := true
    verificationStatus := .verified
    status := if o.status = .completed then .completed else .confirmed }

/-- `_finish_failed_order`. -/
def finishFailedDelivery (safeError : String) (o : Order) : Order :=
  { o with
    isPaid := true
    verificationStatus := .verified
    status := if o.status = .completed then .completed else .confirmed
    provisioningStatus := .failed
    lastProvisioningError := if safeError = "" then o.lastProvisioningError else safeError }

/-- The links that `_finish_success_order` gives to the customer. -/
structure CustomerLinks where
  subLink : String
  directLink : String
  directDeliveryLinks : List DeliveredLink
  deriving DecidableEq, Repr

/-- The order after `_finish_success_order`. -/
def finishDelivery (now : Instant) (actor : Option ℕ) (links : CustomerLinks)
    (primary : Option VPNClient) (results : List SourceResult) (o : Order) : Order :=
  let verified := o.markPaymentVerified actor now
  { verified with
    uuid := (primary.bind (·.uuid)) <|> o.uuid
    subLink := some links.subLink
    directLink := some links.directLink
    username := orElseText o.username ((primary.map (·.username)).getD "")
    metadata := { o.metadata with
      panelProvisioningDeferred := false
      failedSourceResultCount := (results.filter (!·.ok)).length
      configLinkCount := ((results.filter (·.ok)).flatMap (·.links)).length
      directDeliveryLinks := links.directDeliveryLinks }
    provisioningStatus := .provisioned
    lastProvisioningError := ""
    provisionedAt := some now }

@[simp] theorem markOrderProvisioning_pk (o : Order) : (markOrderProvisioning o).pk = o.pk := rfl

@[simp] theorem finishFailedDelivery_pk (safeError : String) (o : Order) :
    (finishFailedDelivery safeError o).pk = o.pk := rfl

@[simp] theorem finishDelivery_pk (now : Instant) (actor : Option ℕ) (links : CustomerLinks)
    (primary : Option VPNClient) (results : List SourceResult) (o : Order) :
    (finishDelivery now actor links primary results o).pk = o.pk := rfl

/-! ## The cup -/

/-- The order's own cup: the one that belongs to no client. -/
def orderCup (db : Db) (order : ℕ) : Option Cup :=
  db.cups.rows.find? fun c => c.order = some order ∧ c.vpnClient = none

def newCup (db : Db) (order : ℕ) : Cup where
  pk := db.cups.nextKey
  order := some order

theorem newCup_pk (db : Db) (order : ℕ) : (newCup db order).pk = db.cups.nextKey := rfl

def Db.addCup (db : Db) (order : ℕ) : Db :=
  { db with cups := db.cups.insert (newCup db order) (newCup_pk db order) }

def Db.setCup (db : Db) (k : ℕ) (f : Cup → Cup) (hf : ∀ c, (f c).pk = c.pk) : Db :=
  { db with cups := db.cups.modify k f hf }

/-- The key of the order's cup, which is made where it is missing. -/
def ensureCup (order : ℕ) : ShopM ℕ := do
  let db ← Prog.readDb id
  match orderCup db order with
  | some cup => return cup.pk
  | none => do
      Prog.writeDb (·.addCup order)
      return db.cups.nextKey

def deliveredItem (link : DeliveredLink) : CupItem where
  link := link.rawLink
  sources := link.sources
  allocation := link.allocation

def retireItem (item : CupItem) : CupItem := { item with isActive := false }

/-- The earlier items are switched off, and the new ones follow. -/
def fillCup (expiresAt : Instant) (links : List DeliveredLink) (c : Cup) : Cup :=
  { c with
    isDisabled := false
    expiresAt := some expiresAt
    items := c.items.map retireItem ++ links.map deliveredItem }

theorem fillCup_pk (expiresAt : Instant) (links : List DeliveredLink) (c : Cup) :
    (fillCup expiresAt links c).pk = c.pk := rfl

/-- The allocations of a cup's links. -/
def setAllocationCup (links : List DeliveredLink) (order cup : ℕ) (a : ConfigAllocation) :
    ConfigAllocation :=
  if some a.pk ∈ links.map (·.allocation) ∧ a.order = some order then { a with cup := some cup }
  else a

theorem setAllocationCup_pk (links : List DeliveredLink) (order cup : ℕ) (a : ConfigAllocation) :
    (setAllocationCup links order cup a).pk = a.pk := by
  rw [setAllocationCup]
  split <;> rfl

def Db.setAllocationCups (db : Db) (links : List DeliveredLink) (order cup : ℕ) : Db :=
  { db with
    allocations := db.allocations.map (setAllocationCup links order cup)
      (setAllocationCup_pk links order cup) }

/-- `order.plan.duration_days`. -/
def orderDays (db : Db) (order : ℕ) : ℕ :=
  (((db.orders.get? order).bind fun o => db.plans.get? o.plan).map (·.durationDays)).getD 0

/-- `timezone.now() + timedelta(days=days)`. -/
def afterDays (now : Instant) (days : ℕ) : Instant := now + minutes (1440 * days)

/-- `_ensure_subscription_cup`. -/
def ensureSubscriptionCup (now : Instant) (order : ℕ) (links : List DeliveredLink) : ShopM ℕ := do
  let cup ← ensureCup order
  let expiresAt ← Prog.readDb fun db => afterDays now (orderDays db order)
  Prog.writeDb (·.setCup cup (fillCup expiresAt links) (fillCup_pk expiresAt links))
  Prog.writeDb (·.setAllocationCups links order cup)
  return cup

/-- What the customer gets: the address of the cup, or the links themselves. -/
def customerLinks (now : Instant) (order : ℕ) (mode : DeliveryMode)
    (links : List DeliveredLink) : ShopM CustomerLinks :=
  if mode = .subscription then do
    let cup ← ensureSubscriptionCup now order links
    return { subLink := platform.cupUrl cup, directLink := "", directDeliveryLinks := [] }
  else
    return {
      subLink := ""
      directLink := ((links.map (·.rawLink)).head?).getD ""
      directDeliveryLinks := links }

/-! ## The delivery -/

/-- `"; ".join(errors[:3])`. -/
def joinErrors (errors : List String) : String := "; ".intercalate (errors.take 3)

def deliveryFailure (errors : List String) : ProvisioningResult where
  ok := false
  message := "تحویل canonical پلن ناموفق بود. سفارش قابل retry است."
  safeError := joinErrors errors

def deliverySuccess : ProvisioningResult where
  ok := true
  message := "سفارش تایید شد و تحویل canonical پلن تکمیل شد."

/-- The end of `execute_plan_delivery`, once its sources were executed. -/
def finishPlanDelivery (now : Instant) (actor : Option ℕ) (order : ℕ) (config : DeliveryConfig)
    (results : List SourceResult) : ShopM ProvisioningResult := do
  let successful := results.filter (·.ok)
  let links := successful.flatMap (·.links)
  let errors := results.flatMap (·.errors)
  if links = [] ∨ config.failurePolicy = .strict ∧ results.any (fun r => r.required && !r.ok) then do
    let safeError := orElseText (joinErrors errors) "plan_delivery_v2_failed"
    saveOrder now order (finishFailedDelivery safeError) (finishFailedDelivery_pk safeError)
    return deliveryFailure (if errors = [] then ["plan_delivery_v2_failed"] else errors)
  else do
    let customer ← customerLinks platform now order config.deliveryMode links
    let db ← Prog.readDb id
    let primary := ((successful.flatMap (·.clients)).head?).bind db.clients.get?
    saveOrder now order (finishDelivery now actor customer primary results)
      (finishDelivery_pk now actor customer primary results)
    return deliverySuccess

/-- `execute_plan_delivery`, for the modes that deliver from sources. -/
def executePlanDelivery (now : Instant) (actor : Option ℕ) (order : ℕ) (config : DeliveryConfig) :
    ShopM ProvisioningResult :=
  Prog.atomic do
    let db ← Prog.readDb id
    let sources := activeDeliverySources db config.pk
    if sources = [] then do
      saveOrder now order (finishFailedDelivery "no_active_plan_delivery_sources")
        (finishFailedDelivery_pk "no_active_plan_delivery_sources")
      return deliveryFailure ["no_active_plan_delivery_sources"]
    else do
      saveOrder now order markOrderProvisioning markOrderProvisioning_pk
      let o ← getOrder order
      let results ← executeConfiguredSources platform now o
        (config.deliveryMode = .subscription) sources
      finishPlanDelivery platform now actor order config results

end Qasedak.Orders

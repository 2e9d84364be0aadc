import Qasedak.Orders.LocalClients
import Qasedak.Orders.Approval
import Qasedak.Orders.CupFulfillment

/-! `_activate_legacy_order_locked`: the delivery on panels whose clients are created
disabled and enabled when the payment is confirmed. -/

namespace Qasedak.Orders

open Foundation Store Panels

/-- `select_inbound_for_plan`, for a number of clients; the text is its validation error. -/
structure Routing where
  selectInboundForPlan : Db → Order → ℕ → Except String (Option Inbound)

variable (platform : Platform) (routing : Routing)

/-! ## Checks -/

/-- `validate_inbound_for_order` without `allow_modern_deferred`. -/
def validateInboundForOrder (db : Db) (i : Inbound) (store : Option ℕ) (requiredSlots : ℕ) :
    Except String Inbound :=
  if ¬ i.isActive then
    .error "اینباند انتخاب‌شده غیرفعال است و نمی‌تواند برای سفارش جدید استفاده شود."
  else if ¬ i.availableForNewOrders then
    .error "اینباند انتخاب‌شده برای فروش یا ساخت کانفیگ جدید مجاز نیست."
  else match db.panels.get? i.panel with
    | none => .error "اینباند انتخاب‌شده به هیچ پنل معتبری وصل نیست. لطفاً تنظیمات سرور را بررسی کن."
    | some p =>
        if ¬ p.isActive then
          .error "پنل متصل به اینباند غیرفعال است و نمی‌تواند برای سفارش جدید استفاده شود."
        else if store.isSome ∧ p.store.isSome ∧ p.store ≠ store then
          .error "اینباند انتخاب‌شده به فروشگاه دیگری وصل است."
        else if p.family ≠ .pasarguard ∧ i.isSynchronizedNode ∧ strip i.xuiNodeId = "" then
          .error "اینباند sync شده از node هویت node ندارد و برای ساخت کانفیگ جدید امن نیست."
        else if p.family = .pasarguard ∨ usesModernClientApi p then
          .error "API جدید 3X-UI ساخت کلاینت غیرفعال را به‌صورت امن پشتیبانی نمی‌کند؛ این مسیر فقط با deferred/direct create-enabled provisioning مجاز است."
        else if p.capabilityProfile = .unknownSafe then
          .error "سازگاری پنل X-UI نامشخص است. ابتدا audit سازگاری پنل را اجرا کن."
        else if i.maxClients.any fun most => most - i.currentUsers < max requiredSlots 1 then
          .error "ظرفیت اینباند انتخاب‌شده برای تعداد کانفیگ درخواستی کافی نیست."
        else .ok i

/-- `Order.can_be_activated`. -/
def canBeActivated (o : Order) : Bool := o.inbound.isSome && o.uuid.getD "" ≠ ""

/-! ## Missing clients -/

/-- What `ensure_legacy_order_client` takes over from the order. -/
def legacyClientResult (o : Order) : ClientResult where
  uuid := o.uuid.getD ""
  email := o.username
  subId := ""
  subLink := o.subLink.getD ""
  directLink := o.directLink.getD ""
  expiresAt := none
  remoteClientKey := ""

/-- `ensure_legacy_order_client`. -/
def ensureLegacyOrderClient (o : Order) (plan : Plan) : ShopM Unit := do
  let db ← Prog.readDb id
  if db.vpnClients o.pk ≠ [] ∨ ¬ canBeActivated o then return
  else Prog.writeDb (·.addClient o plan o.inbound o.username (legacyClientResult o) .inactive)

/-- `sync_order_primary_client_fields`. -/
def syncOrderPrimaryClientFields (primary : Option VPNClient) (o : Order) : Order :=
  match primary with
  | none => o
  | some c =>
      { o with
        inbound := o.inbound.orElse fun _ => c.inbound
        username := orElseText o.username c.username
        uuid := if o.uuid.getD "" = "" ∧ c.uuid.getD "" ≠ "" then c.uuid else o.uuid
        subLink := if o.subLink.getD "" = "" ∧ c.subLink ≠ "" then some c.subLink else o.subLink
        directLink :=
          if o.directLink.getD "" = "" ∧ c.directLink ≠ "" then some c.directLink
          else o.directLink }

@[simp] theorem syncOrderPrimaryClientFields_pk (primary : Option VPNClient) (o : Order) :
    (syncOrderPrimaryClientFields primary o).pk = o.pk := by
  cases primary <;> rfl

/-- `client_display_username`. -/
def clientDisplayUsername (base : String) (result : ClientResult) (o : Order) (index : ℕ) :
    String :=
  if 1 < requiredClientCount o then orElseText result.email (base ++ "_" ++ toString index)
  else base

/-- The inbound of the missing clients: the one of the order, or a new choice. -/
def inboundForMissing (db : Db) (o : Order) (missing : ℕ) : Except String (Option Inbound) :=
  match o.inbound.bind db.inbounds.get? with
  | some i =>
      match validateInboundForOrder db i o.store missing with
      | .ok i => .ok (some i)
      | .error e => .error e
  | none => routing.selectInboundForPlan db o missing

def useRoute (i : Inbound) (o : Order) : Order :=
  { o with inbound := some i.pk, metadata := freezeRoute [] i false o.metadata }

@[simp] theorem useRoute_pk (i : Inbound) (o : Order) : (useRoute i o).pk = o.pk := rfl

def setDeferred (deferred : Bool) (o : Order) : Order :=
  { o with metadata := { o.metadata with panelProvisioningDeferred := deferred } }

@[simp] theorem setDeferred_pk (deferred : Bool) (o : Order) : (setDeferred deferred o).pk = o.pk :=
  rfl

/-- The order once its missing clients are there. -/
def finishMissing (primary : Option VPNClient) (o : Order) : Order :=
  setDeferred false (syncOrderPrimaryClientFields primary o)

@[simp] theorem finishMissing_pk (primary : Option VPNClient) (o : Order) :
    (finishMissing primary o).pk = o.pk := by
  simp [finishMissing]

/-- One missing client; the answer is a failure, if there is one. -/
def provisionOneClient (now : Instant) (o : Order) (plan : Plan) (p : Panel) (i : Inbound)
    (username : String) (index : ℕ) : ShopM (Option OrderActionResult) := do
  let db ← Prog.readDb id
  let identity := orderIdentity platform db o i index
  let found ← Prog.caught (lookupExistingRemoteClient platform p i identity false)
  match found with
  | .error _ =>
      return some { success := false, message := "وضعیت کانفیگ روی پنل نامشخص است؛ بدون بررسی موفق، ساخت دوباره انجام نمی‌شود." }
  | .ok found => do
      let result ← match found with
        | some result => pure (some result)
        | none => createInactiveClientDetails platform now p i (orderRequest plan identity)
      match result with
      | none => do
          saveOrder now o.pk (setDeferred true) (setDeferred_pk true)
          return some { success := false, message := "ساخت کلاینت در پنل X-UI ناموفق بود. بعد از بررسی دسترسی پنل دوباره تلاش کن." }
      | some result => do
          Prog.writeDb (·.addClient o plan (some i.pk)
            (clientDisplayUsername username result o index) result .inactive)
          Prog.writeDb (·.setInbound i.pk useInbound useInbound_pk)
          return none

/-- The loop of `provision_missing_panel_client`, up to the first failure. -/
def provisionClients (now : Instant) (o : Order) (plan : Plan) (p : Panel) (i : Inbound)
    (username : String) (indices : List ℕ) : ShopM (Option OrderActionResult) :=
  Prog.forEach indices none fun index failure =>
    match failure with
    | some failure => return some failure
    | none => provisionOneClient platform now o plan p i username index

/-- `order.vpn_clients.count()` short of `required_client_count`. -/
def missingCount (db : Db) (o : Order) : ℕ := requiredClientCount o - (db.vpnClients o.pk).length

/-- The part of `provision_missing_panel_client` that has an inbound. -/
def provisionOn (now : Instant) (order missing : ℕ) (i : Inbound) : ShopM OrderActionResult := do
  saveOrder now order (useRoute i) (useRoute_pk i)
  let o ← getOrder order
  let db ← Prog.readDb id
  let plan ← getPlan o.plan
  let p ← Prog.orRaise "Panel matching query does not exist." (db.panels.get? i.panel)
  let username := orElseText o.metadata.deferredPanelUsername (orderDisplayName platform db o)
  let existing := (db.vpnClients order).length
  let failure ← provisionClients platform now o plan p i username
    (List.range' (existing + 1) missing)
  match failure with
  | some failure => return failure
  | none => do
      let db ← Prog.readDb id
      saveOrder now order (finishMissing (db.vpnClients order).head?) (finishMissing_pk _)
      return { success := true, message := "کلاینت‌های پنل ساخته شدند." }

/-- `provision_missing_panel_client`. -/
def provisionMissingPanelClient (now : Instant) (order : ℕ) : ShopM OrderActionResult := do
  let o ← getOrder order
  let plan ← getPlan o.plan
  ensureLegacyOrderClient o plan
  let db ← Prog.readDb id
  if missingCount db o = 0 then
    return { success := true, message := "کلاینت‌های پنل از قبل آماده هستند." }
  else match inboundForMissing routing db o (missingCount db o) with
    | .error e => return { success := false, message := e }
    | .ok none =>
        return { success := false, message := "فعلاً سرور VPN فعالی برای ساخت کانفیگ در دسترس نیست." }
    | .ok (some i) => provisionOn platform now order (missingCount db o) i

/-! ## Activation -/

/-- `mark_active`, for the days of a plan. -/
def markActive (now : Instant) (durationDays : ℕ) (c : VPNClient) : VPNClient :=
  let duration := if durationDays = 0 then c.durationDays else durationDays
  { c with
    status := .active
    expiresAt := if duration = 0 then c.expiresAt else some (now + daysToMs duration * 1000) }

@[simp] theorem markActive_pk (now : Instant) (durationDays : ℕ) (c : VPNClient) :
    (markActive now durationDays c).pk = c.pk := rfl

/-- One client of the loop that enables; the answer is a failure, if there is one. -/
def enableOneClient (now : Instant) (plan : Plan) (c : VPNClient) :
    ShopM (Option ProvisioningResult) := do
  let db ← Prog.readDb id
  if c.status = .active then return none
  else if (vpnClientPanelError db c).isSome then
    return some { ok := false, message := panelLinkAdminMessage }
  else do
    let enabled ← enableClient now c
    if enabled then do
      saveClient c.pk (markActive now plan.durationDays) (markActive_pk now plan.durationDays)
      return none
    else return some { ok := false, message := "فعال‌سازی روی پنل X-UI ناموفق بود." }

def enableClients (now : Instant) (plan : Plan) (clients : List VPNClient) :
    ShopM (Option ProvisioningResult) :=
  Prog.forEach clients none fun c failure =>
    match failure with
    | some failure => return some failure
    | none => enableOneClient now plan c

/-- The order once all its clients are enabled. -/
def finishLegacy (now : Instant) (actor : Option ℕ) (primary : Option VPNClient)
    (inbound : Option Inbound) (o : Order) : Order :=
  let synced := syncOrderPrimaryClientFields primary (o.markPaymentVerified actor now)
  markProvisioned now { synced with
    metadata := match inbound with
      | some i => freezeRoute [] i false o.metadata
      | none => o.metadata }

@[simp] theorem finishLegacy_pk (now : Instant) (actor : Option ℕ) (primary : Option VPNClient)
    (inbound : Option Inbound) (o : Order) :
    (finishLegacy now actor primary inbound o).pk = o.pk := by
  simp [finishLegacy]

/-- The part of `_activate_legacy_order_locked` after the missing clients. -/
def enableOrder (now : Instant) (actor : Option ℕ) (order : ℕ) : ShopM ProvisioningResult := do
  let o ← getOrder order
  let plan ← getPlan o.plan
  let db ← Prog.readDb id
  let clients := db.vpnClients order
  if clients.length < requiredClientCount o then
    return { ok := false, message := "همه کانفیگ‌های VPN هنوز آماده نیستند. فعال‌سازی را دوباره امتحان کن." }
  else do
    let failure ← enableClients now plan clients
    match failure with
    | some failure => return failure
    | none => do
        let primary := clients.head?
        let inbound := (syncOrderPrimaryClientFields primary o).inbound.bind db.inbounds.get?
        saveOrder now order (finishLegacy now actor primary inbound)
          (finishLegacy_pk now actor primary inbound)
        return { ok := true, message := "سفارش تایید شد و کانفیگ VPN فعال شد." }

/-- `_activate_legacy_order_locked`. -/
def activateLegacyOrder (now : Instant) (actor : Option ℕ) (order : ℕ) :
    ShopM ProvisioningResult := do
  saveOrder now order markProvisioning markProvisioning_pk
  let o ← getOrder order
  let plan ← getPlan o.plan
  ensureLegacyOrderClient o plan
  let db ← Prog.readDb id
  if missingCount db o = 0 then enableOrder now actor order
  else do
    let provisioned ← provisionMissingPanelClient platform routing now order
    if provisioned.success then enableOrder now actor order
    else return { ok := false, message := provisioned.message }

end Qasedak.Orders

/-! The choice that `_approve_and_provision_order` makes for an order that is no renewal:
the sources of its plan, a recipe, or clients of the order itself. -/

namespace Qasedak.Orders

open Foundation Store Panels

variable (platform : Platform) (routing : Routing)

/-- `active_delivery_config_for_plan`. -/
def activeDeliveryConfigForPlan (db : Db) (plan : ℕ) : Option DeliveryConfig :=
  db.deliveryConfigs.rows.find? fun c => c.plan = plan ∧ c.active

/-- The strategies with which clients are created on the order's own inbounds. -/
inductive DeliveryPath where
  | sources (config : DeliveryConfig)
  | recipe (recipe : Recipe)
  | modern
  | legacy
  deriving DecidableEq, Repr

/-- Modern where the strategy creates enabled clients on the order's panel. -/
def clientPath (db : Db) (o : Order) : DeliveryPath :=
  match resolveOrderProvisioningStrategy db o with
  | .deferredCreateEnabled | .directCreateEnabled => .modern
  | .legacyPrecreateInactive | .renewExistingClient => .legacy

/-- An active configuration comes before a recipe, and a recipe before clients. -/
def deliveryPath (db : Db) (o : Order) : DeliveryPath :=
  match activeDeliveryConfigForPlan db o.plan with
  | some config =>
      if config.deliveryMode = .globalFallback then clientPath db o else .sources config
  | none =>
      match getActiveRecipeForPlan db o.plan with
      | some recipe => .recipe recipe
      | none => clientPath db o

/-- The delivery of `_approve_and_provision_order`. -/
def deliverOrder (now : Instant) (actor : Option ℕ) (order : ℕ) : ShopM ProvisioningResult := do
  let o ← getOrder order
  let db ← Prog.readDb id
  match deliveryPath db o with
  | .sources config => executePlanDelivery platform now actor order config
  | .recipe recipe => fulfillOrderWithRecipe platform now actor order recipe
  | .modern => activateModernOrder platform now actor order
  | .legacy => activateLegacyOrder platform routing now actor order

/-- The delivery of the shop; the assignment of an asset is left as it is given. -/
def shopDelivery (assignAsset : Instant → ℕ → ℕ → ShopM (Option String)) : Delivery where
  displayName := orderDisplayName platform
  deliver := deliverOrder platform routing
  assignAsset := assignAsset

end Qasedak.Orders

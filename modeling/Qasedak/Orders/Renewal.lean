import Qasedak.Panels.XuiApi

/-! The renewal strategy: `activate_renewal_order` of `order_actions` and its caller in
`provisioning_services`. -/

namespace Qasedak.Orders

open Foundation Store Panels

structure ProvisioningResult where
  ok : Bool
  message : String
  alreadyProvisioned : Bool := false
  safeError : String := ""
  deriving DecidableEq, Repr

structure OrderActionResult where
  success : Bool
  message : String
  deriving DecidableEq, Repr

/-- `order_is_renewal`. -/
def orderIsRenewal (o : Order) : Bool := o.metadata.renewalClientPk.isSome

/-- `PANEL_LINK_ADMIN_MESSAGE`. -/
def panelLinkAdminMessage : String :=
  "این کانفیگ به اینباند و پنل معتبر وصل نیست. لطفاً تنظیمات اینباند و پنل را در ادمین بررسی کن."

/-- `vpn_client_panel_error`; none where the client is linked to an active panel. -/
def vpnClientPanelError (db : Db) (c : VPNClient) : Option String :=
  if c.uuid.getD "" = "" then some "UUID کانفیگ ثبت نشده است."
  else match c.inbound with
    | none => some "کانفیگ به هیچ inboundی وصل نیست."
    | some k =>
        match db.inbounds.get? k with
        | none => some "Inbound کانفیگ در دیتابیس پیدا نشد."
        | some i =>
            if ¬ i.isActive then some "Inbound کانفیگ غیرفعال است."
            else match db.panels.get? i.panel with
              | none => some "پنل متصل به inbound در دیتابیس پیدا نشد."
              | some p =>
                  if ¬ p.isActive then some "پنل متصل به inbound غیرفعال است." else none

/-- The client belongs to an order of another customer. -/
def renewsForeignClient (db : Db) (o : Order) (c : VPNClient) : Bool :=
  match o.customer, c.order.bind db.orders.get? with
  | some _, some delivered => delivered.customer ≠ o.customer
  | _, _ => false

/-- The local row of a renewed client. -/
def renewedLocalClient (plan : Plan) (expiry : ℤ) (c : VPNClient) : VPNClient :=
  { c with
    plan := some plan.pk
    status := .active
    trafficLimitBytes := plan.trafficLimitBytes
    usedTrafficBytes := 0
    durationDays := plan.durationDays
    deviceLimit := plan.deviceLimit
    expiresAt := parseXuiDatetime expiry <|> c.expiresAt }

@[simp] theorem renewedLocalClient_pk (plan : Plan) (expiry : ℤ) (c : VPNClient) :
    (renewedLocalClient plan expiry c).pk = c.pk := rfl

/-- `activate_renewal_order`. -/
def activateRenewalOrder (now : Instant) (user : Option ℕ) (order : ℕ) :
    ShopM ProvisioningResult := do
  let o ← getOrder order
  let db ← Prog.readDb id
  match o.metadata.renewalClientPk with
  | none => return { ok := false, message := "سفارش تمدید به کانفیگ مقصد وصل نیست." }
  | some clientPk =>
      match db.clients.get? clientPk with
      | none => return { ok := false, message := "کانفیگ مقصد برای تمدید پیدا نشد." }
      | some c =>
          if renewsForeignClient db o c then
            return { ok := false, message := "کانفیگ مقصد متعلق به این مشتری نیست." }
          else if (vpnClientPanelError db c).isSome then
            return { ok := false, message := panelLinkAdminMessage }
          else do
            let plan ← getPlan o.plan
            let renewed ← renewClient now c plan order
            match renewed with
            | .error e =>
                return { ok := false
                         message := if e = "" then "تمدید روی پنل X-UI ناموفق بود." else e }
            | .ok expiry => do
                saveOrder now order (·.markPaymentVerified user now)
                  (fun o => o.markPaymentVerified_pk user now)
                saveClient clientPk (renewedLocalClient plan expiry) (renewedLocalClient_pk plan expiry)
                return { ok := true, message := "سفارش تایید شد و اشتراک VPN تمدید شد." }

/-- `_mark_provisioning_state(order, PROVISIONING, increment=True)`, saved. -/
def markProvisioning (o : Order) : Order :=
  { o with
    provisioningStatus := .provisioning
    provisioningAttempts := o.provisioningAttempts + 1 }

/-- `_mark_provisioning_state(order, PROVISIONED, error="", provisioned_at=now)`. -/
def markProvisioned (now : Instant) (o : Order) : Order :=
  { o with
    provisioningStatus := .provisioned
    lastProvisioningError := ""
    provisionedAt := some now }

@[simp] theorem markProvisioning_pk (o : Order) : (markProvisioning o).pk = o.pk := rfl

@[simp] theorem markProvisioned_pk (now : Instant) (o : Order) :
    (markProvisioned now o).pk = o.pk := rfl

/-- `_activate_renewal_order_locked`. -/
def activateRenewalOrderLocked (now : Instant) (actor : Option ℕ) (order : ℕ) :
    ShopM ProvisioningResult := do
  saveOrder now order markProvisioning markProvisioning_pk
  let result ← activateRenewalOrder now actor order
  if result.ok then saveOrder now order (markProvisioned now) (markProvisioned_pk now)
  return result

end Qasedak.Orders

import Qasedak.Orders.Approval
import Qasedak.Panels.ClientSwitch
import Qasedak.Foundation.Run
import Qasedak.Orders.Assignment
import Qasedak.Orders.RefusedOrders

/-! `cancel_auto_approved_order`: the services of an order that was approved by the clock are
switched off one by one, and each that went off is recorded, so that a retry goes on with
the others. The notice to the customer is not modelled. -/

namespace Qasedak.Orders

open Foundation Store Panels

/-! ## The clients -/

/-- A completed renewal of the client that was verified after the approval. -/
def renewedLater (db : Db) (order : ℕ) (approvedAt : Instant) (c : VPNClient) : Bool :=
  db.orders.rows.any fun o => o.metadata.renewalClientPk = some c.pk && o.status = .completed &&
    o.verifiedAt.any (approvedAt < ·) && o.pk ≠ order

/-- The client that the order renewed, if it is one of the order's customer. -/
def renewedService (db : Db) (o : Order) (renewal : ℕ) : Except String VPNClient :=
  let owned := (db.clients.get? renewal).filter fun c =>
    c.store = o.store && (c.order.bind db.orders.get?).any (·.customer = o.customer)
  match owned with
  | none => .error "سرویس مقصد تمدید با مشتری و فروشگاه سفارش مطابقت ندارد."
  | some c => .ok c

/-- `cancellation_clients` for an order that was approved then. -/
def cancellationClients (db : Db) (o : Order) (approvedAt : Instant) :
    Except String (List VPNClient) := do
  let own := (db.vpnClients o.pk).insertionSort fun a b => a.pk ≤ b.pk
  let clients ← match o.metadata.renewalClientPk with
    | none => pure own
    | some renewal => do
        let c ← renewedService db o renewal
        pure (if c.pk ∈ own.map (·.pk) then own else own ++ [c])
  if clients.any (renewedLater db o.pk approvedAt) then
    throw "این سرویس بعداً دوباره تمدید شده؛ توقف آن نیازمند بررسی خرید بعدی است."
  return clients

/-! ## Switching them off -/

/-- Change the audit row of an order. -/
def setAudit (order : ℕ) (f : OrderAutomation → OrderAutomation)
    (hf : ∀ a, (f a).order = a.order) : ShopM Unit :=
  Prog.writeDb fun db => { db with automations := db.automations.modify order f hf }

/-- The identifier that the panel knows the client by. -/
def panelIdentifier (p : Panel) (c : VPNClient) : String :=
  if p.family = .pasarguard ∨ c.uuid.getD "" = "" then serviceEmail c else c.uuid.getD ""

/-- One client is switched off, and recorded. -/
def revokeClient (order : ℕ) (c : VPNClient) : ShopM Unit := do
  let db ← Prog.readDb id
  let i ← Prog.orRaise "سرویس پنل معتبر ندارد." (c.inbound.bind db.inbounds.get?)
  let p ← Prog.orRaise "سرویس پنل معتبر ندارد." (db.panels.get? i.panel)
  setVpnClientEnabledByAdmin
    { panel := p.pk
      inboundId := i.inboundId
      nodeId := if c.xuiNodeId = "" then i.xuiNodeId else c.xuiNodeId
      identifier := panelIdentifier p c
      vpnClient := c.pk } false
  setAudit order (fun a => { a with revokedClientIds := a.revokedClientIds ++ [c.pk] })
    (fun _ => rfl)

/-- How far an attempt came. -/
structure Revocation where
  complete : Bool := true
  /-- The clients that it switched off. -/
  disabled : List ℕ := []
  deriving DecidableEq, Repr

def revokedClientIds (db : Db) (order : ℕ) : List ℕ :=
  ((db.automations.get? order).map (·.revokedClientIds)).getD []

/-- The text of an attempt that is to be repeated. -/
def cancelIncomplete : String :=
  "ساب متوقف شد، ولی غیرفعال‌سازی همه سرویس‌ها روی پنل کامل نشد. پس از رفع خطا دوباره لغو را بزنید."

/-- One turn of the loop; after a failure the other clients are left out. -/
def revokeNext (order : ℕ) (c : VPNClient) (r : Revocation) : ShopM Revocation := do
  let revoked ← Prog.readDb (revokedClientIds · order)
  if ¬ r.complete ∨ c.pk ∈ revoked then return r
  else
    Prog.onError (do
      revokeClient order c
      return { r with disabled := r.disabled ++ [c.pk] }) fun _ => do
        setAudit order (fun a => { a with
          reviewStatus := .cancelFailed
          lastError := cancelIncomplete }) (fun _ => rfl)
        return { r with complete := false }

/-- The loop over the clients. -/
def revokeClients (order : ℕ) (clients : List VPNClient) : ShopM Revocation :=
  Prog.forEach clients {} (revokeNext order)

/-- The cups of the order and of its clients are closed. -/
def disableCup (order : ℕ) (clients : List ℕ) (c : Cup) : Cup :=
  if c.order = some order ∨ c.vpnClient.any (· ∈ clients) then { c with isDisabled := true } else c

theorem disableCup_pk (order : ℕ) (clients : List ℕ) (c : Cup) :
    (disableCup order clients c).pk = c.pk := by
  rw [disableCup]
  split <;> rfl

/-! ## The cancellation -/

/-- The order once all its clients are off; the reason is not modelled. -/
def cancelUnpaid (o : Order) : Order :=
  { o with status := .cancelled, verificationStatus := .rejected, isPaid := false }

theorem cancelUnpaid_pk (o : Order) : (cancelUnpaid o).pk = o.pk := rfl

/-- The transaction of `cancel_auto_approved_order`. -/
def cancelTransaction (now : Instant) (order : ℕ) : ShopM Revocation :=
  Prog.atomic do
    let o ← getOrder order
    let db ← Prog.readDb id
    let audit ← Prog.orRaise "OrderAutomation matching query does not exist."
      (db.automations.get? order)
    match audit.autoApprovedAt with
    | none => Prog.raise "این سفارش تأیید خودکار ندارد."
    | some approvedAt =>
        if audit.reviewStatus = .cancelled then return {}
        else do
          let clients ← Prog.ofExcept (cancellationClients db o approvedAt)
          setAudit order (fun a => { a with reviewStatus := .cancelling, lastError := "" })
            (fun _ => rfl)
          Prog.writeDb fun db => { db with
            cups := db.cups.map (disableCup order (clients.map (·.pk)))
              (disableCup_pk order (clients.map (·.pk))) }
          let r ← revokeClients order clients
          if r.complete then do
            saveOrder now order cancelUnpaid cancelUnpaid_pk
            setAudit order (fun a => { a with reviewStatus := .cancelled }) (fun _ => rfl)
          return r

/-- `cancel_auto_approved_order`; the answer is whether it is complete. -/
def cancelAutoApprovedOrder (now : Instant) (reason : String) (order : ℕ) : ShopM Revocation :=
  if strip reason = "" then
    Prog.raise "دلیل لغو را وارد کنید؛ این متن برای مشتری ارسال می‌شود."
  else cancelTransaction now order

end Qasedak.Orders

/-! Calls of `auto_approve_order`, `confirm_auto_payment`, `cancel_auto_approved_order` and
`approve_and_provision_order` on one order, which may be in flight together. A transaction is
one step, and a call that halts is over. -/

namespace Qasedak.Orders

open Foundation Store Panels

/-! ## Calls -/

/-- How far `approve_and_provision_order` is; `claimed` tells of a renewal claim to finish. -/
inductive ApprovalPhase where
  | begun
  | approving (claimed : Bool)
  | rewarding (claimed : Bool) (r : ProvisioningResult)
  | failing (claimed : Bool) (r : ProvisioningResult)
  | finishing
  deriving DecidableEq

inductive AuditCall where
  /-- `auto_approve_order` before its claim, after it, and with an error to note. -/
  | autoApproving
  | autoDelivering
  | noting (e : String)
  | approving (actor : Option ℕ) (source : Source) (notify : Bool) (phase : ApprovalPhase)
  | confirming (user : Option ℕ)
  | cancelling (reason : String)
  | ended
  deriving DecidableEq

/-- What a step of a call leads to: whether it claimed the order for an automatic approval,
and which clients it switched off. -/
structure Advance where
  next : AuditCall := .ended
  autoApproved : Bool := false
  disabled : List ℕ := []
  deriving DecidableEq

variable (delivery : Delivery)

/-- The next step of `approve_and_provision_order`; none where the call is over. -/
def ApprovalPhase.advance (now : Instant) (actor : Option ℕ) (source : Source) (notify : Bool)
    (order : ℕ) : ApprovalPhase → ShopM (Option ApprovalPhase)
  | .begun => do
      let o ← getOrder order
      if o.metadata.adminInventoryAssetId.isSome then do
        let _ ← assignmentTransaction delivery now actor order
        return none
      else if ¬ orderIsRenewal o then return some (.approving false)
      else do
        let claim ← claimRenewal now order
        match claim with
        | .error _ => return none
        | .ok claimed => return some (.approving claimed)
  | .approving claimed => do
      let outcome ← approveTransaction delivery now actor source order
      match outcome with
      | .answered _ => return if claimed then some .finishing else none
      | .attempted r => return some (if r.ok then .rewarding claimed r else .failing claimed r)
  | .rewarding claimed r => do
      rewardReferrer now order
      if notify ∧ ¬ r.alreadyProvisioned then notifyOrderEvent
      return if claimed then some .finishing else none
  | .failing claimed r => do
      recordFailure now order r
      return if claimed then some .finishing else none
  | .finishing => do
      finishRenewal now order
      return none

/-- The errors that `auto_approve_order` notes. -/
def deliveryIncomplete : String :=
  "تحویل خودکار کامل نشد؛ نتیجه و خطای تحویل سفارش را بررسی کنید."

def deliveryUnclear : String :=
  "نتیجه تحویل نامشخص است؛ پیش از تلاش مجدد سرویس روی پنل را بررسی کنید."

def AuditCall.advance (now : Instant) (order : ℕ) : AuditCall → ShopM Advance
  | .autoApproving => do
      let claimed ← claimAutoApproval now order
      return { next := if claimed then .autoDelivering else .ended, autoApproved := claimed }
  | .autoDelivering =>
      Prog.onError (do
        let r ← autoApprovalTransaction delivery now order
        return { next := if r.ok then .ended else .noting deliveryIncomplete }) fun _ =>
        return { next := .noting deliveryUnclear }
  | .noting e => do
      noteAutomationError order e
      return {}
  | .approving actor source notify phase => do
      let phase ← phase.advance delivery now actor source notify order
      match phase with
      | none => return {}
      | some phase => return { next := .approving actor source notify phase }
  | .confirming user => do
      confirmAutoPayment now user order
      return {}
  | .cancelling reason => do
      let r ← cancelAutoApprovedOrder now reason order
      return { disabled := r.disabled }
  | .ended => return {}

/-! ## Runs -/

/-- From when on the order may be approved by the clock. -/
def autoApprovalDue (db : Db) (order : ℕ) : Option Instant := do
  let o ← db.orders.get? order
  let submittedAt ← o.paymentSubmittedAt
  let store ← o.store.bind db.stores.get?
  let enabledAt ← store.orderAutoApproveEnabledAt
  return max submittedAt enabledAt + autoApproveDelay

/-- A claim for an automatic approval, with the time from which on it was due. -/
structure AutoApproval where
  time : Instant
  due : Option Instant
  deriving DecidableEq

/-- The shop, the calls in flight, and what they did so far: the automatic approvals, and the
clients that a cancellation switched off. -/
structure AuditRace where
  shop : Shop
  calls : List AuditCall := []
  approvals : List AutoApproval := []
  disabled : List ℕ := []

inductive AuditOp where
  | autoApprove
  | approve (actor : Option ℕ) (source : Source) (notify : Bool)
  | confirm (user : Option ℕ)
  | cancel (reason : String)
  /-- One step of a call, with the fate of its interactions. -/
  | advance (j : ℕ) (now : Instant) (signals : List Signal)

/-- A call that halts is over. -/
def Advance.of : Except (Halt String) Advance → Advance
  | .ok a => a
  | .error _ => {}

/-- The race after a step of the call `j` that led to this. -/
def AuditRace.after (order j : ℕ) (now : Instant) (r : AuditRace) (a : Advance) (s : Shop) :
    AuditRace where
  shop := s
  calls := r.calls.set j a.next
  approvals := if a.autoApproved then
      r.approvals ++ [{ time := now, due := autoApprovalDue r.shop.db order }]
    else r.approvals
  disabled := r.disabled ++ a.disabled

/-- A step of the call `j`. -/
def AuditRace.advance (order j : ℕ) (now : Instant) (signals : List Signal) (r : AuditRace)
    (c : AuditCall) : AuditRace :=
  let outcome := c.advance delivery now order { r.shop with signals := signals }
  r.after order j now (.of outcome.1) outcome.2

/-- A new call. -/
def AuditRace.call (r : AuditRace) (c : AuditCall) : AuditRace := { r with calls := r.calls ++ [c] }

def auditStep (order : ℕ) (r : AuditRace) : AuditOp → AuditRace
  | .autoApprove => r.call .autoApproving
  | .approve actor source notify => r.call (.approving actor source notify .begun)
  | .confirm user => r.call (.confirming user)
  | .cancel reason => r.call (.cancelling reason)
  | .advance j now signals =>
      match r.calls[j]? with
      | none => r
      | some c => r.advance delivery order j now signals c

/-- The panels may fail in any way; the process that runs a cancellation does not die. -/
def Survives (r : AuditRace) : AuditOp → Prop
  | .advance j _ signals => ∀ reason, r.calls[j]? = some (.cancelling reason) → Calm signals
  | _ => True

/-! ## What is promised -/

/-- The review of the order has the status. -/
def HasReview (k : ℕ) (status : ReviewStatus) (db : Db) : Prop :=
  ∃ a, db.automations.get? k = some a ∧ a.reviewStatus = status

/-- `CANCELLED`, and unpaid. -/
def IsWithdrawn (k : ℕ) (db : Db) : Prop :=
  ∃ o, db.orders.get? k = some o ∧ o.status = .cancelled ∧ o.isPaid = false

/-- What is delivered to the customers. -/
def Db.deliveries (db : Db) : Clients × Cups × Assets × Allocations :=
  (db.clients, db.cups, db.assets, db.allocations)

/-- Nothing was delivered, and no service was asked for. -/
structure Undelivered (s s' : Shop) : Prop where
  deliveries : s'.db.deliveries = s.db.deliveries
  calls : provisioningCalls s' = provisioningCalls s

/-- The order was neither approved by the clock nor reviewed, and no call is in flight. -/
structure AuditRace.Fresh (k : ℕ) (r : AuditRace) : Prop where
  unreviewed : ∀ a, r.shop.db.automations.get? k = some a →
    a.autoApprovedAt = none ∧ a.reviewStatus = .none
  calls : r.calls = []
  approvals : r.approvals = []
  disabled : r.disabled = []

end Qasedak.Orders

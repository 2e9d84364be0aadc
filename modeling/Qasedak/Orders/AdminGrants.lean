import Qasedak.Foundation.Run
import Qasedak.Orders.Assignment
import Qasedak.Orders.Checkout
import Qasedak.Orders.Delivery

/-! Services that an administrator gives away: `assign_customer_service` and
`grant_free_subscription`, under an id that the confirmation carries. A call advances from one
database access to the next, and others run in between. -/

namespace Qasedak.Orders.AdminGrants

open Foundation Store Orders Panels

/-! ## Calls -/

/-- The plan object of a call, with what is asked of its store. -/
structure GrantPlan where
  plan : Plan
  isActive : Bool := true
  storeIsActive : Bool := true

/-- A bot user who receives the service, and the store of the bot. -/
structure GrantTarget where
  customer : Option ℕ
  store : Option ℕ

inductive AssignmentMode where
  | new
  | existing
  | unknown
  deriving DecidableEq

/-- A call of `assign_customer_service`. -/
structure AssignCall where
  requestId : String
  customer : ℕ
  plan : GrantPlan
  target : Option GrantTarget := none
  mode : AssignmentMode
  asset : Option ℕ := none
  included : Bool := false
  amount : Option ℤ := none
  actorKey : String
  actor : Option ℕ := none

/-- A call of `grant_free_subscription` with a request id. -/
structure FreeGrant where
  requestId : String
  customer : ℕ
  plan : Plan
  store : Option ℕ
  /-- `metadata["assignment_actor"]`. -/
  assignmentActor : Option String := none
  grantedBy : Option ℕ := none
  revenueIncluded : Bool := false
  revenueAmount : Option ℤ := none

inductive GrantCall where
  | assign (c : AssignCall)
  | grant (g : FreeGrant)

namespace GrantCall

def requestId : GrantCall → String
  | assign c => c.requestId
  | grant g => g.requestId

def customer : GrantCall → ℕ
  | assign c => c.customer
  | grant g => g.customer

def plan : GrantCall → ℕ
  | assign c => c.plan.plan.pk
  | grant g => g.plan.pk

end GrantCall

/-- The revenue that a call wants booked is not a positive amount. -/
def invalidAmount (included : Bool) (amount : Option ℤ) : Bool :=
  included && !amount.any fun a => 0 < a && a ≤ 2147483647

/-- `grant_free_subscription` as `assign_customer_service` calls it. -/
def AssignCall.toGrant (c : AssignCall) : FreeGrant where
  requestId := c.requestId
  customer := c.customer
  plan := c.plan.plan
  store := c.plan.plan.store
  assignmentActor := some c.actorKey
  grantedBy := c.actor
  revenueIncluded := c.included
  revenueAmount := c.amount

/-- How the delivery of the plan was resolved before the order is created: an error that is
recorded on the order, or the inbound of a plan without a configured delivery. -/
structure Preflight where
  error : Option String := none
  inbound : Option Inbound := none
  trackingCode : String := ""
  username : String := ""

/-- An order that is about to be created; an asset makes it the assignment of an existing
configuration. -/
structure Reservation where
  requestId : String
  customer : ℕ
  plan : Plan
  store : Option ℕ
  assignmentActor : Option String
  grantedBy : Option ℕ
  asset : Option ℕ := none
  preflight : Preflight := {}

/-- The row of the order. -/
def reservedOrder (k : ℕ) (now : Instant) (r : Reservation) : Order where
  pk := k
  publicId := r.requestId
  orderTrackingCode := r.preflight.trackingCode
  customer := some r.customer
  store := r.store
  plan := r.plan.pk
  originalAmount := r.plan.price
  discountAmount := r.plan.price
  amount := 0
  currency := r.plan.currency
  createdAt := now
  paymentMethod := .adminFree
  paymentSubmittedAt := some now
  status := .pendingPayment
  isPaid := true
  provisioningStatus := .pending
  inbound := r.preflight.inbound.map (·.pk)
  username := r.preflight.username
  metadata :=
    { freeGrant := true
      suppressNewOrderNotification := true
      adminInventoryAssetId := r.asset
      provisioningScope := r.preflight.inbound.map provisioningScope
      panelProvisioningDeferred := r.preflight.inbound.isSome
      deferredPanelUsername := r.preflight.username }

/-! ## The system -/

/-- The columns of an order that a confirmation reads again; nothing writes them after the order
was created. The last one tells which call created it. -/
structure Confirmation where
  order : ℕ
  requestId : String
  customer : ℕ
  plan : ℕ
  assignmentActor : Option String
  grantedBy : Option ℕ
  /-- The order carries an asset to assign. -/
  existing : Bool
  createdBy : ℕ

/-- The external work of an order, as it was done: the allocations it added, and the write
requests it sent to panels. -/
structure WorkDone where
  requestId : String
  existing : Bool
  allocated : ℕ
  requests : ℕ
  deriving DecidableEq

inductive GrantAnswer where
  | refused (message : String)
  /-- The order was there before. -/
  | reported (order : ℕ) (ok : Bool)
  | finished (order : ℕ) (ok : Bool)
  | crashed
  deriving DecidableEq

/-- How far a call is. -/
inductive GrantPhase where
  | assigning (c : AssignCall)
  | granting (g : FreeGrant)
  | reserving (r : Reservation)
  | failing (order : ℕ) (error : String)
  | working (c : Confirmation)
  | ended (a : GrantAnswer)

structure GrantRun where
  call : GrantCall
  phase : GrantPhase

structure Grants where
  shop : Shop
  confirmations : List Confirmation := []
  runs : ℕ → Option GrantRun := fun _ => none
  works : List WorkDone := []

def GrantCall.start : GrantCall → GrantPhase
  | .assign c => .assigning c
  | .grant g => .granting g

/-! ## Steps -/

/-- `Order.objects.filter(public_id=request_id).first()`. -/
def Grants.find (s : Grants) (id : String) : Option Confirmation :=
  s.confirmations.find? (·.requestId = id)

/-- `order.status == COMPLETED`. -/
def Grants.isCompleted (s : Grants) (k : ℕ) : Bool :=
  (s.shop.db.orders.get? k).any (·.status = .completed)

/-- The target is another customer's, or the plan is of another store. -/
def AssignCall.targetRefused (c : AssignCall) : Bool :=
  c.target.any fun t => t.customer ≠ some c.customer || c.plan.plan.store ≠ t.store

def invalidConfirmation : GrantAnswer := .refused "تأیید عملیات معتبر نیست."

/-- The first part of `assign_customer_service`. -/
def checkAssignment (now : Instant) (s : Grants) (c : AssignCall) : GrantPhase :=
  if c.targetRefused then .ended (.refused "مشتری یا فروشگاه مقصد معتبر نیست.")
  else match s.find c.requestId with
    | some previous =>
        if previous.customer ≠ c.customer ∨ previous.assignmentActor ≠ some c.actorKey then
          .ended invalidConfirmation
        else .ended (.reported previous.order (s.isCompleted previous.order))
    | none =>
        if ¬ c.plan.isActive ∨ ¬ c.plan.storeIsActive ∨ invalidAmount c.included c.amount then
          .ended (.refused "پلن یا مبلغ معتبر نیست.")
        else match c.mode, c.asset with
          | .new, _ => .granting c.toGrant
          | .existing, some asset =>
              if (assignmentAsset s.shop.db now c.plan.plan.pk asset).isSome then
                .reserving {
                  requestId := c.requestId
                  customer := c.customer
                  plan := c.plan.plan
                  store := c.plan.plan.store
                  assignmentActor := some c.actorKey
                  grantedBy := c.actor
                  asset := some asset }
              else .ended (.refused "کانفیگ انتخاب‌شده به موجودی این پلن تعلق ندارد.")
          | _, _ => .ended (.refused "کانفیگ انتخاب‌شده به موجودی این پلن تعلق ندارد.")

/-- The first part of `grant_free_subscription`, up to the resolution of the delivery. -/
def checkGrant (preflight : Preflight) (s : Grants) (g : FreeGrant) : GrantPhase :=
  if invalidAmount g.revenueIncluded g.revenueAmount then
    .ended (.refused "مبلغ درآمد باید مثبت باشد.")
  else match s.find g.requestId with
    | some previous =>
        if previous.customer ≠ g.customer ∨ previous.plan ≠ g.plan.pk then
          .ended invalidConfirmation
        else .ended (.reported previous.order (s.isCompleted previous.order))
    | none =>
        .reserving {
          requestId := g.requestId
          customer := g.customer
          plan := g.plan
          store := g.store
          assignmentActor := g.assignmentActor
          grantedBy := g.grantedBy
          preflight := preflight }

/-- The check on an order that another call created meanwhile. -/
def Reservation.accepts (r : Reservation) (previous : Confirmation) : Bool :=
  previous.customer = r.customer &&
    if r.asset.isSome then previous.assignmentActor = r.assignmentActor
    else previous.plan = r.plan.pk

def Reservation.confirmation (r : Reservation) (order run : ℕ) : Confirmation where
  order := order
  requestId := r.requestId
  customer := r.customer
  plan := r.plan.pk
  assignmentActor := r.assignmentActor
  grantedBy := r.grantedBy
  existing := r.asset.isSome
  createdBy := run

def Grants.setPhase (s : Grants) (n : ℕ) (r : GrantRun) (phase : GrantPhase) : Grants :=
  { s with runs := Function.update s.runs n (some { r with phase := phase }) }

/-- The database with the new order. -/
def reserveOrder (now : Instant) (r : Reservation) (db : Db) : Db :=
  db.addOrder (reservedOrder db.orders.nextKey now r) rfl

/-- `Order.objects.get_or_create(public_id=request_id, …)`. -/
def reserve (now : Instant) (s : Grants) (n : ℕ) (run : GrantRun) (r : Reservation) : Grants :=
  match s.find r.requestId with
  | some previous =>
      s.setPhase n run (.ended
        (if r.accepts previous then .reported previous.order false else invalidConfirmation))
  | none =>
      let k := s.shop.db.orders.nextKey
      let created := { s with
        shop := { s.shop with db := reserveOrder now r s.shop.db }
        confirmations := s.confirmations ++ [r.confirmation k n] }
      created.setPhase n run (match r.preflight.error with
        | some error => .failing k error
        | none => .working (r.confirmation k n))

/-- The order of a delivery that could not be resolved. -/
def recordPreflightError (error : String) (o : Order) : Order :=
  { o with provisioningStatus := .failed, lastProvisioningError := error }

theorem recordPreflightError_pk (error : String) (o : Order) :
    (recordPreflightError error o).pk = o.pk := rfl

variable (platform : Platform) (routing : Routing) (checkLink : LinkCheck)

/-- The work that follows the creation: `complete_inventory_assignment` or `activate_order`. -/
def Confirmation.work (now : Instant) (c : Confirmation) : ShopM ProvisioningResult :=
  let delivery := shopDelivery platform routing (assignInventoryAsset checkLink)
  if c.existing then completeInventoryAssignment delivery now c.grantedBy true c.order
  else approveAndProvisionOrder delivery now c.grantedBy .manual true c.order

def workAnswer (order : ℕ) : Except (Halt String) ProvisioningResult → GrantAnswer
  | .ok r => .finished order r.ok
  | .error (.raised e) => .refused e
  | .error .crashed => .crashed

def workDone (c : Confirmation) (before after : Shop) : WorkDone where
  requestId := c.requestId
  existing := c.existing
  allocated := after.db.allocations.rows.length - before.db.allocations.rows.length
  requests := after.calls.length - before.calls.length

/-- When a step happens, what the resolution of a delivery gives, and the fate of the
interactions with panels. -/
structure GrantEvent where
  now : Instant
  preflight : Preflight := {}
  signals : List Signal := []

/-- The next step of a call. -/
def Grants.advance (s : Grants) (n : ℕ) (run : GrantRun) (e : GrantEvent) : Grants :=
  match run.phase with
  | .assigning c => s.setPhase n run (checkAssignment e.now s c)
  | .granting g => s.setPhase n run (checkGrant e.preflight s g)
  | .reserving r => reserve e.now s n run r
  | .failing order error =>
      let db := s.shop.db.setOrder order (recordPreflightError error) (recordPreflightError_pk error)
      let failed := { s with shop := { s.shop with db := db } }
      failed.setPhase n run (.ended (.finished order false))
  | .working c =>
      let outcome := c.work platform routing checkLink e.now { s.shop with signals := e.signals }
      let worked := { s with
        shop := outcome.2
        works := s.works ++ [workDone c s.shop outcome.2] }
      worked.setPhase n run (.ended (workAnswer c.order outcome.1))
  | .ended _ => s

inductive GrantStep where
  | begin (n : ℕ) (call : GrantCall)
  | advance (n : ℕ) (e : GrantEvent)
  /-- The process of a call dies. -/
  | crash (n : ℕ)
  /-- Somebody else changes the shop. -/
  | meanwhile (shop : Shop)

def Grants.step (s : Grants) : GrantStep → Grants
  | .begin n call =>
      match s.runs n with
      | some _ => s
      | none => { s with runs := Function.update s.runs n (some ⟨call, call.start⟩) }
  | .advance n e =>
      match s.runs n with
      | some run => s.advance platform routing checkLink n run e
      | none => s
  | .crash n =>
      match s.runs n with
      | some run => s.setPhase n run (.ended .crashed)
      | none => s
  | .meanwhile shop => { s with shop := shop }

end Qasedak.Orders.AdminGrants

import Qasedak.Orders.Db
import Qasedak.Orders.Creation
import Qasedak.Orders.LocalClients

/-! The uses of a discount code: `reserve_discount_usage`, `release_discount_usage` and
`mark_customer_reward_used`. -/

namespace Qasedak.Orders

open Foundation Store

/-- `MAX_ORDER_QUANTITY`. -/
def maxOrderQuantity : ℕ := 50

/-- A use of a code that a checkout has taken, and the discount that it gives. -/
structure Reservation where
  code : ℕ
  amount : ℕ
  deriving DecidableEq, Repr

/-- `validate_reward_discount_owner`: a reward's code is for its owner. -/
def validateRewardDiscountOwner (db : Db) (discount : ℕ) (customer : Option ℕ) :
    Except String Unit :=
  let rewards := db.rewards.rows.filter (·.discountCode = some discount)
  if rewards = [] then .ok ()
  else if rewards.any fun r => some r.customer = customer && r.status = .available then .ok ()
  else .error "This reward code is not available for this account."

/-- A code after one of its uses was taken, or taken back. -/
def Db.setDiscount (db : Db) (k : ℕ) (f : DiscountCode → DiscountCode)
    (hf : ∀ d, (f d).pk = d.pk) : Db :=
  { db with discounts := db.discounts.modify k f hf }

/-- `reserve_discount_usage`, for a code that is normalised already. -/
def reserveDiscountUsage (now : Instant) (plan : Plan) (code : String) (customer : Option ℕ)
    (quantity : ℕ) (db : Db) : Except String (Option Reservation × Db) :=
  if quantity = 0 ∨ maxOrderQuantity < quantity then
    .error "Quantity must be between 1 and 50."
  else if code = "" then .ok (none, db)
  else match db.discounts.rows.find? (·.code = code) with
    | none => .error "Discount code is invalid."
    | some d => do
        validateRewardDiscountOwner db d.pk customer
        d.validateForPlan plan.pk now
        return (some ⟨d.pk, d.calculateDiscount (plan.price * quantity)⟩,
          db.setDiscount d.pk DiscountCode.reserved DiscountCode.reserved_pk)

/-- `release_discount_usage`. -/
def releaseDiscountUsage (db : Db) (reservation : Option Reservation) : Db :=
  match reservation with
  | none => db
  | some r => db.setDiscount r.code DiscountCode.released DiscountCode.released_pk

/-- The rewards that `mark_customer_reward_used` uses up. -/
def useReward (customer discount : ℕ) (r : CustomerReward) : CustomerReward :=
  if r.customer = customer ∧ r.discountCode = some discount ∧ r.status = .available then
    { r with status := .used }
  else r

theorem useReward_pk (customer discount : ℕ) (r : CustomerReward) :
    (useReward customer discount r).pk = r.pk := by
  rw [useReward]
  split <;> rfl

/-- `mark_customer_reward_used`. -/
def markCustomerRewardUsed (db : Db) (customer : Option ℕ) (reservation : Option Reservation) :
    Db :=
  match customer, reservation with
  | some customer, some r =>
      { db with rewards := db.rewards.map (useReward customer r.code) (useReward_pk customer r.code) }
  | _, _ => db

/-- A reservation takes one use of a code that has one left. -/
theorem reserveDiscountUsage_ok {now : Instant} {plan : Plan} {code : String}
    {customer : Option ℕ} {quantity : ℕ} {db db' : Db} {reservation : Option Reservation}
    (h : reserveDiscountUsage now plan code customer quantity db = .ok (reservation, db')) :
    reservation = none ∧ db' = db ∨ ∃ d r, reservation = some r ∧ r.code = d.pk ∧
      d ∈ db.discounts.rows ∧ d.hasUsageAvailable = true ∧
      db' = db.setDiscount d.pk DiscountCode.reserved DiscountCode.reserved_pk := by
  rw [reserveDiscountUsage] at h
  split at h
  · cases h
  split at h
  · cases h
    exact .inl ⟨rfl, rfl⟩
  cases hfound : db.discounts.rows.find? (·.code = code) with
  | none =>
      rw [hfound] at h
      cases h
  | some d =>
      rw [hfound] at h
      dsimp only at h
      cases howner : validateRewardDiscountOwner db d.pk customer with
      | error e =>
          rw [howner] at h
          cases h
      | ok u =>
          cases hvalid : d.validateForPlan plan.pk now with
          | error e =>
              rw [howner, hvalid] at h
              cases h
          | ok v =>
              rw [howner, hvalid] at h
              cases h
              exact .inr ⟨d, _, rfl, rfl, List.mem_of_find?_eq_some hfound,
                DiscountCode.hasUsageAvailable_of_validateForPlan hvalid, rfl⟩

end Qasedak.Orders

/-! The checkouts of `order_services`: `create_manual_payment_order`, from its duplicate check
on, and `create_renewal_payment_order`. A call moves from one step that others see to the
next; the parts that choose a route, ask the panel or send a message end as the run says. -/

namespace Qasedak.Orders

open Foundation Store Panels

/-! ## Requests -/

/-- What `create_manual_payment_order` is called with, once it is checked and cleaned. -/
structure PaymentRequest where
  store : Option ℕ := none
  customer : Option ℕ := none
  plan : Plan
  operator : Option ℕ := none
  quantity : ℕ := 1
  senderCardName : String := ""
  senderCardLast4 : String := ""
  paymentTime : Option ℕ := none
  bankTrackingCode : String := ""
  hasReceipt : Bool := false
  /-- `DiscountCode.normalize_code(discount_code)`. -/
  discountCode : String := ""
  /-- `get_customer_wholesale_discount_percent(customer)`. -/
  wholesalePercent : ℕ := 0
  deriving DecidableEq

/-- What `create_renewal_payment_order` is called with. -/
structure RenewalRequest where
  customer : Option ℕ
  client : VPNClient
  currentStore : Option ℕ := none
  discountCode : String := ""
  wholesalePercent : ℕ := 0
  deriving DecidableEq

/-- The discount of an order: what its code gives, or the wholesale discount. -/
def checkoutDiscount (subtotal wholesalePercent : ℕ) : Option Reservation → ℕ
  | some reservation => min reservation.amount subtotal
  | none => min (subtotal * min wholesalePercent 100 / 100) subtotal

/-- `str(value.pk if value else "")`. -/
def optionText (n : Option ℕ) : String := (n.map toString).getD ""

/-- `payment_time.strftime("%H:%M")`. -/
def clockText (minute : ℕ) : String :=
  let twoDigits (n : ℕ) : String := if n < 10 then "0" ++ toString n else toString n
  twoDigits (minute / 60) ++ ":" ++ twoDigits (minute % 60)

/-- `build_duplicate_order_key`. -/
def buildDuplicateOrderKey (platform : Platform) (r : PaymentRequest) : String :=
  let parts :=
    [optionText r.store, optionText r.customer, toString r.plan.pk, optionText r.operator,
      toString r.quantity, platform.unicode.casefold (strip r.senderCardName), r.senderCardLast4,
      (r.paymentTime.map clockText).getD "",
      platform.unicode.casefold (strip r.bankTrackingCode)]
  "order:create:" ++ platform.hash.sha256 ("|".intercalate parts)

/-- `DUPLICATE_ORDER_WINDOW_SECONDS`. -/
def duplicateOrderWindow : Instant := minutes 10

/-- `DUPLICATE_ORDER_LOCK_SECONDS`. -/
def duplicateOrderLock : Instant := 90 * 1000000

/-- `timezone.localdate(now, TEHRAN_TZ)`, as a number of days. -/
def tehranDay (now : Instant) : ℤ := (now + minutes 210) / minutes 1440

/-- What `find_similar_pending_order` compares apart from the status and the time. -/
def SimilarTo (now : Instant) (r : PaymentRequest) (o : Order) : Bool :=
  o.plan = r.plan.pk && o.quantity = r.quantity && o.operator = r.operator &&
    (r.store.isNone || o.store = r.store) &&
    (if r.customer.isSome then o.customer = r.customer
      else o.senderCardName = r.senderCardName && o.senderCardLast4 = r.senderCardLast4) &&
    (if r.bankTrackingCode ≠ "" then o.bankTrackingCode = r.bankTrackingCode
      else r.paymentTime.isNone ||
        o.paymentDate = some (tehranDay now) && o.paymentTime = r.paymentTime)

/-- `find_similar_pending_order`: the newest one. -/
def findSimilarPendingOrder (now : Instant) (r : PaymentRequest) (db : Db) : Option Order :=
  let similar := db.orders.rows.filter fun o =>
    SimilarTo now r o && (o.status = .pendingPayment || o.status = .pendingVerification) &&
      now - duplicateOrderWindow ≤ o.createdAt
  (similar.insertionSort fun o o' => o'.createdAt ≤ o.createdAt).head?

/-! ## Orders -/

/-- What a manual checkout has prepared: its route, the metadata of its strategy, and the
client of a legacy panel. -/
structure Prepared where
  publicId : String := ""
  trackingCode : String := ""
  username : String := ""
  inbound : Option Inbound := none
  metadata : OrderMetadata := {}
  clientResult : Option ClientResult := none
  deriving DecidableEq

/-- The order of a manual checkout, as the transaction saves it. -/
def manualPaymentOrder (k : ℕ) (now : Instant) (r : PaymentRequest) (p : Prepared)
    (reservation : Option Reservation) : Order :=
  let discount := checkoutDiscount (r.plan.price * r.quantity) r.wholesalePercent reservation
  Order.save
    { pk := k
      publicId := p.publicId
      orderTrackingCode := p.trackingCode
      customer := r.customer
      store := r.store <|> r.plan.store
      plan := r.plan.pk
      operator := r.operator
      quantity := r.quantity
      originalAmount := r.plan.price * r.quantity
      discountAmount := discount
      discountCode := reservation.map (·.code)
      amount := r.plan.price * r.quantity - discount
      currency := r.plan.currency
      createdAt := now
      hasReceipt := r.hasReceipt
      senderCardName := r.senderCardName
      senderCardLast4 := r.senderCardLast4
      paymentDate := some (tehranDay now)
      paymentTime := r.paymentTime
      bankTrackingCode := r.bankTrackingCode
      paymentSubmittedAt := some now
      isPaid := true
      status := .pendingVerification
      provisioningStatus := if p.clientResult.isSome then .provisioned else .pending
      provisionedAt := if p.clientResult.isSome then some now else none
      inbound := p.inbound.map (·.pk)
      username := p.username
      uuid := p.clientResult.map (·.uuid)
      subLink := p.clientResult.map (·.subLink)
      directLink := p.clientResult.map (·.directLink)
      metadata := p.metadata } now

@[simp] theorem manualPaymentOrder_pk (k : ℕ) (now : Instant) (r : PaymentRequest) (p : Prepared)
    (reservation : Option Reservation) : (manualPaymentOrder k now r p reservation).pk = k := rfl

def Db.addOrder (db : Db) (o : Order) (ho : o.pk = db.orders.nextKey) : Db :=
  { db with orders := db.orders.insert o ho }

/-- The client of a legacy panel, with its place on the inbound. -/
def Db.addInactiveClient (db : Db) (o : Order) (r : PaymentRequest) (p : Prepared) : Db :=
  match p.clientResult with
  | none => db
  | some result =>
      let inbound := p.inbound.map (·.pk)
      let added := db.addClient o r.plan inbound p.username result .inactive
      match inbound with
      | none => added
      | some i => added.setInbound i useInbound useInbound_pk

/-- The transaction of `create_manual_payment_order`. -/
def placeManualOrder (now : Instant) (r : PaymentRequest) (p : Prepared)
    (reservation : Option Reservation) (db : Db) : Db :=
  let o := manualPaymentOrder db.orders.nextKey now r p reservation
  markCustomerRewardUsed ((db.addOrder o rfl).addInactiveClient o r p) r.customer reservation

/-- The plan, the delivered order and the store of a renewal. -/
def renewalTerms (r : RenewalRequest) (db : Db) : Except String (Plan × Order × Option ℕ) :=
  if r.client.isDeleted then .error "این کانفیگ حذف شده و قابل تمدید نیست."
  else match r.client.plan.bind db.plans.get? with
    | none => .error "این کانفیگ پلن قابل تمدید ندارد."
    | some plan =>
        match r.client.order.bind db.orders.get? with
        | none => .error "سفارش اصلی این کانفیگ پیدا نشد."
        | some delivered =>
            if r.customer.isSome ∧ delivered.customer ≠ r.customer then
              .error "این کانفیگ برای این حساب نیست."
            else .ok (plan, delivered,
              r.client.store <|> delivered.store <|> plan.store <|> r.currentStore)

/-- The order of a renewal checkout. -/
def renewalCheckoutOrder (k : ℕ) (now : Instant) (p : Prepared) (r : RenewalRequest) (plan : Plan)
    (delivered : Order) (store : Option ℕ) (reservation : Option Reservation) : Order :=
  let discount := checkoutDiscount plan.price r.wholesalePercent reservation
  { renewalPaymentOrder k p.publicId p.trackingCode r.customer store plan discount now r.client with
    operator := delivered.operator
    originalAmount := plan.price
    discountAmount := discount
    discountCode := reservation.map (·.code) }

@[simp] theorem renewalCheckoutOrder_pk (k : ℕ) (now : Instant) (p : Prepared) (r : RenewalRequest)
    (plan : Plan) (delivered : Order) (store : Option ℕ) (reservation : Option Reservation) :
    (renewalCheckoutOrder k now p r plan delivered store reservation).pk = k := rfl

/-- The transaction of `create_renewal_payment_order`. -/
def placeRenewalOrder (now : Instant) (p : Prepared) (r : RenewalRequest) (plan : Plan)
    (delivered : Order) (store : Option ℕ) (reservation : Option Reservation) (db : Db) : Db :=
  let o := renewalCheckoutOrder db.orders.nextKey now p r plan delivered store reservation
  markCustomerRewardUsed (db.addOrder o rfl) r.customer reservation

/-! ## Calls -/

/-- How a part of a call ends that the model leaves open. -/
inductive Outcome where
  | done
  /-- With a `ValidationError`. -/
  | invalid (message : String)
  /-- With an `OSError`. -/
  | storageFailed
  /-- With another exception. -/
  | raised
  /-- The process is killed. -/
  | died
  deriving DecidableEq

/-- An outcome, and what the part has prepared where it is done. -/
structure Event where
  outcome : Outcome := .done
  prepared : Prepared := {}
  deriving DecidableEq

/-- What a call answers. -/
inductive CallResult where
  | created (order : ℕ)
  | duplicate (order : ℕ)
  /-- `"درخواست قبلی هنوز در حال ثبت است. …"`. -/
  | stillPending
  | refused (message : String)
  | raised
  deriving DecidableEq

/-- How far a `create_manual_payment_order` is. -/
inductive ManualPhase where
  | looking
  | locking
  | rechecking
  | reserving
  | preparing (reservation : Option Reservation)
  | placing (reservation : Option Reservation) (prepared : Prepared)
  | notifying (reservation : Option Reservation) (order : ℕ)
  | leaving (result : CallResult)
  | over (result : CallResult)
  | dead
  deriving DecidableEq

/-- How far a `create_renewal_payment_order` is. -/
inductive RenewalPhase where
  | checking
  | reserving (plan : Plan) (delivered : Order) (store : Option ℕ)
  | placing (plan : Plan) (delivered : Order) (store : Option ℕ)
      (reservation : Option Reservation)
  | notifying (reservation : Option Reservation) (order : ℕ)
  | over (result : CallResult)
  | dead
  deriving DecidableEq

/-- What the calls share: the database, and the keys of the cache with their expiry. -/
structure Desk where
  db : Db
  locks : List (String × Instant) := []

namespace Desk

/-- The key is in the cache. -/
def locked (d : Desk) (now : Instant) (key : String) : Bool :=
  d.locks.any fun lock => lock.1 = key && now < lock.2

/-- `cache.add` of a key that is not there. -/
def lock (d : Desk) (now : Instant) (key : String) : Desk :=
  { d with locks := (d.locks.filter (·.1 ≠ key)) ++ [(key, now + duplicateOrderLock)] }

/-- `cache.delete`. -/
def unlock (d : Desk) (key : String) : Desk := { d with locks := d.locks.filter (·.1 ≠ key) }

def release (d : Desk) (reservation : Option Reservation) : Desk :=
  { d with db := releaseDiscountUsage d.db reservation }

end Desk

def storageRefusal : String :=
  "Could not save the receipt image. Please try a smaller JPG or PNG image, or contact support."

/-- The end of a manual checkout after an exception in its transaction or in the hooks of the
commit: the use of the code is taken back. -/
def leaveManual (d : Desk) (reservation : Option Reservation) : Outcome → ManualPhase × Desk
  | .invalid message => (.leaving (.refused message), d.release reservation)
  | .storageFailed => (.leaving (.refused storageRefusal), d.release reservation)
  | .raised => (.leaving .raised, d.release reservation)
  | .done | .died => (.dead, d)

variable (platform : Platform)

/-- The next step of `create_manual_payment_order`. -/
def manualStep (now : Instant) (e : Event) (r : PaymentRequest) (d : Desk) :
    ManualPhase → ManualPhase × Desk
  | .looking =>
      match e.outcome, findSimilarPendingOrder now r d.db with
      | .done, some o => (.over (.duplicate o.pk), d)
      | .done, none => (.locking, d)
      | .died, _ => (.dead, d)
      | _, _ => (.over .raised, d)
  | .locking =>
      let key := buildDuplicateOrderKey platform r
      match e.outcome with
      | .done => if d.locked now key then (.rechecking, d) else (.reserving, d.lock now key)
      | .died => (.dead, d)
      | _ => (.over .raised, d)
  | .rechecking =>
      match e.outcome, findSimilarPendingOrder now r d.db with
      | .done, some o => (.over (.duplicate o.pk), d)
      | .done, none => (.over .stillPending, d)
      | .died, _ => (.dead, d)
      | _, _ => (.over .raised, d)
  | .reserving =>
      match e.outcome with
      | .done =>
          match reserveDiscountUsage now r.plan r.discountCode r.customer r.quantity d.db with
          | .error message => (.leaving (.refused message), d)
          | .ok (reservation, db) => (.preparing reservation, { d with db := db })
      | .died => (.dead, d)
      | _ => (.leaving .raised, d)
  | .preparing reservation =>
      match e.outcome with
      | .done => (.placing reservation e.prepared, d)
      -- No route, or one that cannot be used.
      | .invalid message => (.leaving (.refused message), d.release reservation)
      | .storageFailed | .raised => (.leaving .raised, d)
      | .died => (.dead, d)
  | .placing reservation prepared =>
      match e.outcome with
      | .done =>
          (.notifying reservation d.db.orders.nextKey,
            { d with db := placeManualOrder now r prepared reservation d.db })
      | outcome => leaveManual d reservation outcome
  | .notifying reservation order =>
      match e.outcome with
      | .done => (.leaving (.created order), d)
      | outcome => leaveManual d reservation outcome
  | .leaving result =>
      match e.outcome with
      | .done => (.over result, d.unlock (buildDuplicateOrderKey platform r))
      | .died => (.dead, d)
      | _ => (.over .raised, d)
  | .over result => (.over result, d)
  | .dead => (.dead, d)

/-- The end of a renewal checkout after an exception: the use of the code is taken back. -/
def leaveRenewal (d : Desk) (reservation : Option Reservation) : Outcome → RenewalPhase × Desk
  | .invalid _ | .storageFailed | .raised => (.over .raised, d.release reservation)
  | .done | .died => (.dead, d)

/-- The next step of `create_renewal_payment_order`. -/
def renewalStep (now : Instant) (e : Event) (r : RenewalRequest) (d : Desk) :
    RenewalPhase → RenewalPhase × Desk
  | .checking =>
      match e.outcome, renewalTerms r d.db with
      | .done, .ok (plan, delivered, store) => (.reserving plan delivered store, d)
      | .done, .error message => (.over (.refused message), d)
      | .died, _ => (.dead, d)
      | _, _ => (.over .raised, d)
  | .reserving plan delivered store =>
      match e.outcome with
      | .done =>
          match reserveDiscountUsage now plan r.discountCode r.customer 1 d.db with
          | .error message => (.over (.refused message), d)
          | .ok (reservation, db) =>
              (.placing plan delivered store reservation, { d with db := db })
      | .died => (.dead, d)
      | _ => (.over .raised, d)
  | .placing plan delivered store reservation =>
      match e.outcome with
      | .done =>
          (.notifying reservation d.db.orders.nextKey,
            { d with
              db := placeRenewalOrder now e.prepared r plan delivered store reservation d.db })
      | outcome => leaveRenewal d reservation outcome
  | .notifying reservation order =>
      match e.outcome with
      | .done => (.over (.created order), d)
      | outcome => leaveRenewal d reservation outcome
  | .over result => (.over result, d)
  | .dead => (.dead, d)

inductive CheckoutCall where
  | manual (r : PaymentRequest) (phase : ManualPhase)
  | renewal (r : RenewalRequest) (phase : RenewalPhase)
  deriving DecidableEq

def CheckoutCall.step (now : Instant) (e : Event) (d : Desk) :
    CheckoutCall → CheckoutCall × Desk
  | .manual r phase =>
      let next := manualStep platform now e r d phase
      (.manual r next.1, next.2)
  | .renewal r phase =>
      let next := renewalStep now e r d phase
      (.renewal r next.1, next.2)

/-- The desk and the calls in flight. -/
structure Checkouts where
  desk : Desk
  calls : List CheckoutCall := []

/-- A new call, or the next step of one. -/
inductive CheckoutOp where
  | manualPayment (r : PaymentRequest)
  | renewal (r : RenewalRequest)
  | advance (j : ℕ) (now : Instant) (e : Event)

def checkoutStep (s : Checkouts) : CheckoutOp → Checkouts
  | .manualPayment r => { s with calls := s.calls ++ [.manual r .looking] }
  | .renewal r => { s with calls := s.calls ++ [.renewal r .checking] }
  | .advance j now e =>
      match s.calls[j]? with
      | none => s
      | some c =>
          let next := c.step platform now e s.desk
          { desk := next.2, calls := s.calls.set j next.1 }

/-- Putting another element in the place of one. -/
theorem countP_set_add {α : Type} {l : List α} {j : ℕ} {a b : α} (p : α → Bool)
    (h : l[j]? = some a) : (l.set j b).countP p + (p a).toNat = l.countP p + (p b).toNat := by
  induction l generalizing j with
  | nil => simp at h
  | cons x l ih =>
      cases j with
      | zero =>
          obtain rfl : x = a := by simpa using h
          simp only [List.set_cons_zero, List.countP_cons]
          cases p x <;> cases p b <;> simp
      | succ j =>
          have hrest := ih (j := j) (by simpa using h)
          simp only [List.set_cons_succ, List.countP_cons]
          omega

end Qasedak.Orders

import Mathlib
import Qasedak.Orders.AdminGrants

/-! The price of an order: what is announced, what the creation paths charge, and what
`Order.save` makes of amounts that are zero. -/

namespace Qasedak.Orders

open Foundation Store

/-! ## Discounts -/

/-- `calculate_percentage_discount`. -/
def calculatePercentageDiscount (amount percent : ℕ) : ℕ :=
  if amount = 0 ∨ percent = 0 then 0 else min (amount * min percent 100 / 100) amount

/-- `preview_discount`, for a code that is normalised already: the code, the discount and the
amount to pay. -/
def previewDiscount (now : Instant) (plan : Plan) (code : String) (customer : Option ℕ)
    (quantity : ℕ) (db : Db) : Except String (Option ℕ × ℕ × ℕ) :=
  if quantity = 0 ∨ maxOrderQuantity < quantity then
    .error "Quantity must be between 1 and 50."
  else if code = "" then .ok (none, 0, plan.price * quantity)
  else match db.discounts.rows.find? (·.code = code) with
    | none => .error "Discount code is invalid."
    | some d => do
        validateRewardDiscountOwner db d.pk customer
        d.validateForPlan plan.pk now
        let discount := d.calculateDiscount (plan.price * quantity)
        return (some d.pk, discount, plan.price * quantity - discount)

/-- The price fields of an order. -/
structure OrderAmounts where
  original : ℕ
  discount : ℕ
  amount : ℕ
  deriving DecidableEq, Repr

def orderAmounts (o : Order) : OrderAmounts := ⟨o.originalAmount, o.discountAmount, o.amount⟩

/-- `calculate_bot_pricing`. -/
def calculateBotPricing (now : Instant) (plan : Plan) (quantity : ℕ) (customer : Option ℕ)
    (wholesalePercent : ℕ) (code : String) (db : Db) : Except String OrderAmounts :=
  if quantity = 0 ∨ maxOrderQuantity < quantity then
    .error "Quantity must be between 1 and 50."
  else if code = "" then
    let discount := calculatePercentageDiscount (plan.price * quantity) wholesalePercent
    .ok ⟨plan.price * quantity, discount, plan.price * quantity - discount⟩
  else (previewDiscount now plan code customer quantity db).map fun preview =>
    ⟨plan.price * quantity, preview.2.1, preview.2.2⟩

/-! ## Saves -/

/-- `order.subtotal_amount`, at the price of its plan. -/
def subtotalAmount (price : ℕ) (o : Order) : ℕ :=
  price * if o.quantity = 0 then 1 else o.quantity

/-- The order that `Order.save` writes, with the plan as it is then. -/
def savedOrder (plan : Plan) (now : Instant) (o : Order) : Order :=
  let status := if o.status = .pending then .pendingVerification else o.status
  let original := if o.originalAmount = 0 then subtotalAmount plan.price o else o.originalAmount
  let submitted := o.paymentMethod = .manualCard ∧
    (o.isPaid ∨ status = .pendingVerification ∨ o.paymentSubmittedAt.isSome)
  { o with
    status := status
    store := o.store <|> plan.store
    originalAmount := original
    amount :=
      if o.amount = 0 ∧ o.discountAmount = 0 then
        if original = 0 then subtotalAmount plan.price o else original
      else o.amount
    paymentSubmittedAt :=
      if submitted then some (o.paymentSubmittedAt.getD now) else o.paymentSubmittedAt
    paymentDate := if submitted then some (o.paymentDate.getD (tehranDay now)) else o.paymentDate }

/-- `changed_fields`. -/
def changedFields (plan : Plan) (o : Order) : List String :=
  let status := if o.status = .pending then .pendingVerification else o.status
  let submitted := o.paymentMethod = .manualCard ∧
    (o.isPaid ∨ status = .pendingVerification ∨ o.paymentSubmittedAt.isSome)
  (if o.status = .pending then ["status"] else []) ++
    (if o.store = none ∧ plan.store.isSome then ["store"] else []) ++
    (if o.originalAmount = 0 then ["original_amount"] else []) ++
    (if o.amount = 0 ∧ o.discountAmount = 0 then ["amount"] else []) ++
    (if submitted ∧ o.paymentSubmittedAt = none then ["payment_submitted_at"] else []) ++
    (if submitted ∧ o.paymentDate = none then ["payment_date"] else [])

/-- The row of an order after some of its columns were written. -/
def writeColumns (fields : List String) (o row : Order) : Order :=
  let pick {α : Type} (field : String) (column : Order → α) : α :=
    if field ∈ fields then column o else column row
  { pk := row.pk
    publicId := pick "public_id" (·.publicId)
    orderTrackingCode := pick "order_tracking_code" (·.orderTrackingCode)
    customer := pick "customer" (·.customer)
    store := pick "store" (·.store)
    plan := pick "plan" (·.plan)
    operator := pick "operator" (·.operator)
    quantity := pick "quantity" (·.quantity)
    originalAmount := pick "original_amount" (·.originalAmount)
    discountAmount := pick "discount_amount" (·.discountAmount)
    discountCode := pick "discount_code" (·.discountCode)
    amount := pick "amount" (·.amount)
    currency := pick "currency" (·.currency)
    createdAt := pick "created_at" (·.createdAt)
    paymentMethod := pick "payment_method" (·.paymentMethod)
    paymentSubmittedAt := pick "payment_submitted_at" (·.paymentSubmittedAt)
    hasReceipt := pick "payment_receipt_image" (·.hasReceipt)
    senderCardName := pick "sender_card_name" (·.senderCardName)
    senderCardLast4 := pick "sender_card_last4" (·.senderCardLast4)
    paymentDate := pick "payment_date" (·.paymentDate)
    paymentTime := pick "payment_time" (·.paymentTime)
    bankTrackingCode := pick "bank_tracking_code" (·.bankTrackingCode)
    status := pick "status" (·.status)
    isPaid := pick "is_paid" (·.isPaid)
    verificationStatus := pick "verification_status" (·.verificationStatus)
    verifiedBy := pick "verified_by" (·.verifiedBy)
    verifiedAt := pick "verified_at" (·.verifiedAt)
    provisioningStatus := pick "provisioning_status" (·.provisioningStatus)
    provisioningAttempts := pick "provisioning_attempts" (·.provisioningAttempts)
    lastProvisioningError := pick "last_provisioning_error" (·.lastProvisioningError)
    provisionedAt := pick "provisioned_at" (·.provisionedAt)
    inbound := pick "inbound" (·.inbound)
    username := pick "username" (·.username)
    uuid := pick "uuid" (·.uuid)
    subLink := pick "sub_link" (·.subLink)
    directLink := pick "direct_link" (·.directLink)
    metadata := pick "metadata" (·.metadata) }

/-- The row after `order.save(update_fields=fields)`; without fields the whole row is written. -/
def saveRow (fields : Option (List String)) (plan : Plan) (now : Instant) (o row : Order) : Order :=
  match fields with
  | none => { savedOrder plan now o with pk := row.pk }
  | some fields => writeColumns (fields ++ changedFields plan o) (savedOrder plan now o) row

/-! ## Creation -/

/-- `Order.apply_discount`. -/
def applyDiscount (code : Option ℕ) (discount price : ℕ) (o : Order) : Order :=
  let original := if o.originalAmount = 0 then subtotalAmount price o else o.originalAmount
  { o with
    originalAmount := original
    discountCode := code
    discountAmount := min discount original
    amount := original - min discount original }

/-- `Order.apply_wholesale_discount`. -/
def applyWholesaleDiscount (percent price : ℕ) (o : Order) : Order :=
  let original := if o.originalAmount = 0 then subtotalAmount price o else o.originalAmount
  if min percent 100 = 0 then { o with originalAmount := original }
  else applyDiscount none (min (original * min percent 100 / 100) original) price
    { o with originalAmount := original }

/-- The order of `_create_inactive_order_records` or `_create_deferred_order_record`. -/
def newOrder (k : ℕ) (now : Instant) (r : PaymentRequest) (p : Prepared) : Order where
  pk := k
  publicId := p.publicId
  orderTrackingCode := p.trackingCode
  customer := r.customer
  store := r.store
  plan := r.plan.pk
  operator := r.operator
  quantity := r.quantity
  originalAmount := r.plan.price * r.quantity
  amount := r.plan.price * r.quantity
  currency := r.plan.currency
  createdAt := now
  provisioningStatus := if p.clientResult.isSome then .provisioned else .pending
  provisionedAt := if p.clientResult.isSome then some now else none
  inbound := p.inbound.map (·.pk)
  username := p.username
  uuid := p.clientResult.map (·.uuid)
  subLink := p.clientResult.map (·.subLink)
  directLink := p.clientResult.map (·.directLink)
  metadata := p.metadata

/-- The discount that `create_manual_payment_order` applies to its order. -/
def discountOrder (r : PaymentRequest) (reservation : Option Reservation) (o : Order) : Order :=
  match reservation with
  | some reservation => applyDiscount (some reservation.code) reservation.amount r.plan.price o
  | none =>
      if calculatePercentageDiscount (r.plan.price * r.quantity) r.wholesalePercent = 0 then o
      else applyWholesaleDiscount r.wholesalePercent r.plan.price o

/-- `Order.submit_manual_payment`, with the tracking code that is set after it. -/
def submitPayment (now : Instant) (r : PaymentRequest) (o : Order) : Order :=
  { o with
    paymentMethod := .manualCard
    senderCardName := r.senderCardName
    senderCardLast4 := r.senderCardLast4
    paymentDate := some (tehranDay now)
    paymentTime := r.paymentTime
    hasReceipt := r.hasReceipt
    isPaid := true
    paymentSubmittedAt := some now
    status := .pendingVerification
    verificationStatus := .pending
    bankTrackingCode := r.bankTrackingCode }

/-- The order of `create_manual_payment_order`, through its two saves. -/
def chargedOrder (k : ℕ) (now : Instant) (r : PaymentRequest) (p : Prepared)
    (reservation : Option Reservation) : Order :=
  let created := savedOrder r.plan now (newOrder k now r p)
  savedOrder r.plan now (submitPayment now r (discountOrder r reservation created))

/-- The order of `create_renewal_payment_order`, with its save. -/
def chargedRenewal (k : ℕ) (now : Instant) (p : Prepared) (r : RenewalRequest) (plan : Plan)
    (delivered : Order) (store : Option ℕ) (reservation : Option Reservation) : Order :=
  let discount := (reservation.map (·.amount)).getD
    (calculatePercentageDiscount plan.price r.wholesalePercent)
  savedOrder plan now
    { pk := k
      publicId := p.publicId
      orderTrackingCode := p.trackingCode
      customer := r.customer
      store := store
      plan := plan.pk
      operator := delivered.operator
      originalAmount := plan.price
      discountAmount := discount
      discountCode := reservation.map (·.code)
      amount := plan.price - discount
      currency := plan.currency
      createdAt := now
      username := r.client.username
      uuid := r.client.uuid
      inbound := r.client.inbound
      subLink := some r.client.subLink
      directLink := some r.client.directLink
      metadata := { renewalClientPk := some r.client.pk } }

/-- A call that creates an order. -/
inductive OrderCreation where
  | manual (r : PaymentRequest) (p : Prepared)
  | renewal (r : RenewalRequest) (p : Prepared)
  | grant (r : AdminGrants.Reservation)

namespace OrderCreation

/-- The plan of the order and the order as it is created. -/
def create (now : Instant) (db : Db) : OrderCreation → Except String (Plan × Order)
  | .manual r p =>
      (reserveDiscountUsage now r.plan r.discountCode r.customer r.quantity db).map fun reserved =>
        (r.plan, chargedOrder db.orders.nextKey now r p reserved.1)
  | .renewal r p =>
      match renewalTerms r db with
      | .error e => .error e
      | .ok (plan, delivered, store) =>
          (reserveDiscountUsage now plan r.discountCode r.customer 1 db).map fun reserved =>
            (plan, chargedRenewal db.orders.nextKey now p r plan delivered store reserved.1)
  | .grant r =>
      .ok (r.plan, savedOrder r.plan now (AdminGrants.reservedOrder db.orders.nextKey now r))

/-- The price that the customer is shown for the order; a grant shows none. -/
def announced (now : Instant) (db : Db) (plan : Plan) : OrderCreation → Option (Except String OrderAmounts)
  | .manual r _ =>
      some (calculateBotPricing now plan r.quantity r.customer r.wholesalePercent r.discountCode db)
  | .renewal r _ =>
      some (calculateBotPricing now plan 1 r.customer r.wholesalePercent r.discountCode db)
  | .grant _ => none

end OrderCreation

/-! ## Later saves -/

/-- An assignment to fields of an order that are not its price fields. -/
structure OtherFields where
  assign : Order → Order
  keeps : ∀ o, orderAmounts (assign o) = orderAmounts o

/-- An order's row and the instances of it that are in memory. -/
structure OrderCopies where
  row : Order
  copies : ℕ → Order

/-- What happens to an order after its creation; a save finds the plan as it is then. -/
inductive SaveOp where
  | load (i : ℕ)
  | assign (i : ℕ) (fields : OtherFields)
  | save (i : ℕ) (fields : Option (List String)) (plan : Plan) (now : Instant)

def saveStep (s : OrderCopies) : SaveOp → OrderCopies
  | .load i => { s with copies := Function.update s.copies i s.row }
  | .assign i fields => { s with copies := Function.update s.copies i (fields.assign (s.copies i)) }
  | .save i fields plan now =>
      { row := saveRow fields plan now (s.copies i) s.row
        copies := Function.update s.copies i (savedOrder plan now (s.copies i)) }

/-- A save of the operation finds a plan without a price. -/
def SaveOp.FindsNoPrice : SaveOp → Prop
  | .load _ => True
  | .assign _ _ => True
  | .save _ _ plan _ => plan.price = 0

/-- The price of an order is conserved at its creation, was announced so, and stays as it is. -/
structure PriceKept (now : Instant) (db : Db) (c : OrderCreation) (plan : Plan) (o : Order)
    (ops : List SaveOp) : Prop where
  original : o.originalAmount = plan.price * o.quantity
  discount : o.discountAmount ≤ o.originalAmount
  sum : o.amount + o.discountAmount = o.originalAmount
  announced : ∀ price ∈ c.announced now db plan, price = .ok (orderAmounts o)
  kept : ∀ before after, ops = before ++ after →
    orderAmounts (run saveStep ⟨o, fun _ => o⟩ before).row = orderAmounts o ∧
      ∀ i, orderAmounts ((run saveStep ⟨o, fun _ => o⟩ before).copies i) = orderAmounts o

/-! ## The amounts of a created order -/

variable {now : Instant} {db : Db} {c : OrderCreation} {plan : Plan} {o row : Order} {k : ℕ}
  {r : PaymentRequest} {p : Prepared} {reservation : Option Reservation}

theorem calculatePercentageDiscount_eq (amount percent : ℕ) :
    calculatePercentageDiscount amount percent = min (amount * min percent 100 / 100) amount := by
  unfold calculatePercentageDiscount
  split
  · next h =>
      rcases h with rfl | rfl <;> simp
  · rfl

/-- A save leaves the amounts alone where there are some or the plan has no price. -/
theorem savedOrder_amounts (hsum : o.amount + o.discountAmount = o.originalAmount)
    (hprice : o.originalAmount ≠ 0 ∨ plan.price = 0) :
    orderAmounts (savedOrder plan now o) = orderAmounts o := by
  have hsubtotal : plan.price = 0 → subtotalAmount plan.price o = 0 := fun h => by
    rw [subtotalAmount, h, Nat.zero_mul]
  rw [orderAmounts, orderAmounts, savedOrder, OrderAmounts.mk.injEq]
  dsimp only
  rcases hprice with hsome | hzero
  · rw [if_neg hsome, if_neg (show ¬ (o.amount = 0 ∧ o.discountAmount = 0) by omega)]
    exact ⟨rfl, rfl, rfl⟩
  · rw [hsubtotal hzero]
    refine ⟨?_, rfl, ?_⟩
    · split <;> omega
    · split
      · next hnone =>
          have horiginal : o.originalAmount = 0 := by omega
          rw [horiginal, hnone.1]
          rfl
      · rfl

/-- A save of an order without amounts takes over the price of its plan. -/
theorem savedOrder_zero (hzero : o.originalAmount = 0) (hprice : plan.price ≠ 0) :
    (savedOrder plan now o).originalAmount ≠ 0 := by
  have hsubtotal : subtotalAmount plan.price o ≠ 0 := by
    rw [subtotalAmount]
    refine Nat.mul_ne_zero hprice ?_
    split <;> omega
  change (if o.originalAmount = 0 then subtotalAmount plan.price o else o.originalAmount) ≠ 0
  rwa [if_pos hzero]

/-- An order whose amounts are those of a discount on its subtotal. -/
structure Charged (price quantity discount : ℕ) (o : Order) : Prop where
  ordered : o.quantity = quantity
  amounts : orderAmounts o = ⟨price * quantity, discount, price * quantity - discount⟩

theorem Charged.saved {quantity discount : ℕ} (h : Charged plan.price quantity discount o)
    (hle : discount ≤ plan.price * quantity) (hquantity : 0 < quantity) :
    Charged plan.price quantity discount (savedOrder plan now o) := by
  have hamounts := h.amounts
  rw [orderAmounts, OrderAmounts.mk.injEq] at hamounts
  obtain ⟨horiginal, hdiscount, hamount⟩ := hamounts
  refine ⟨h.ordered, (savedOrder_amounts (by omega) ?_).trans h.amounts⟩
  by_cases hprice : plan.price = 0
  · exact .inr hprice
  · refine .inl ?_
    rw [horiginal]
    exact Nat.mul_ne_zero hprice hquantity.ne'

theorem original_of_charged {price quantity discount : ℕ} (h : Charged price quantity discount o) :
    (if o.originalAmount = 0 then subtotalAmount price o else o.originalAmount) = o.originalAmount ∨
      quantity = 0 := by
  have hamounts := h.amounts
  rw [orderAmounts, OrderAmounts.mk.injEq] at hamounts
  by_cases hquantity : quantity = 0
  · exact .inr hquantity
  · refine .inl ?_
    split
    · next hzero =>
        rw [subtotalAmount, h.ordered, if_neg hquantity, ← hamounts.1, hzero]
    · rfl

/-- The discount of a manual order, from its code or for a wholesale customer. -/
def paidDiscount (subtotal wholesalePercent : ℕ) (reservation : Option Reservation) : ℕ :=
  (reservation.map fun res => min res.amount subtotal).getD
    (calculatePercentageDiscount subtotal wholesalePercent)

theorem paidDiscount_le (subtotal percent : ℕ) : paidDiscount subtotal percent reservation ≤ subtotal := by
  rw [paidDiscount]
  cases reservation with
  | none =>
      rw [Option.map_none, Option.getD_none, calculatePercentageDiscount_eq]
      exact Nat.min_le_right _ _
  | some res => exact Nat.min_le_right _ _

theorem applyDiscount_charged {price quantity before discount : ℕ} {code : Option ℕ}
    (h : Charged price quantity before o) (hquantity : 0 < quantity) :
    Charged price quantity (min discount (price * quantity)) (applyDiscount code discount price o) := by
  have horiginal := (original_of_charged h).resolve_right hquantity.ne'
  have hamounts := h.amounts
  rw [orderAmounts, OrderAmounts.mk.injEq] at hamounts
  refine ⟨h.ordered, ?_⟩
  rw [applyDiscount, horiginal, orderAmounts, hamounts.1]

theorem discountOrder_charged (hquantity : 0 < r.quantity)
    (h : Charged r.plan.price r.quantity 0 o) :
    Charged r.plan.price r.quantity
      (paidDiscount (r.plan.price * r.quantity) r.wholesalePercent reservation)
      (discountOrder r reservation o) := by
  cases reservation with
  | some res => exact applyDiscount_charged h hquantity
  | none =>
      rw [discountOrder, paidDiscount, Option.map_none, Option.getD_none]
      split
      · next hzero =>
          rw [hzero]
          exact h
      · next hsome =>
          have horiginal := (original_of_charged h).resolve_right hquantity.ne'
          have hamounts := h.amounts
          rw [orderAmounts, OrderAmounts.mk.injEq] at hamounts
          have hpercent : ¬ min r.wholesalePercent 100 = 0 := by
            intro hzero
            rw [calculatePercentageDiscount_eq, hzero] at hsome
            simp at hsome
          rw [applyWholesaleDiscount, if_neg hpercent, horiginal, hamounts.1,
            calculatePercentageDiscount_eq]
          have hsame : { o with originalAmount := r.plan.price * r.quantity } = o := by
            rw [← hamounts.1]
          rw [hsame]
          have happlied := @applyDiscount_charged _ _ _ _
            (min (r.plan.price * r.quantity * min r.wholesalePercent 100 / 100)
              (r.plan.price * r.quantity)) none h hquantity
          rwa [min_assoc, min_self] at happlied

theorem chargedOrder_charged (hquantity : 0 < r.quantity) :
    Charged r.plan.price r.quantity
      (paidDiscount (r.plan.price * r.quantity) r.wholesalePercent reservation)
      (chargedOrder k now r p reservation) := by
  have hnew : Charged r.plan.price r.quantity 0 (newOrder k now r p) := ⟨rfl, rfl⟩
  have hcreated := @Charged.saved now _ _ _ _ hnew (Nat.zero_le _) hquantity
  have hdiscount := @discountOrder_charged _ _ reservation hquantity hcreated
  have hsubmitted : Charged r.plan.price r.quantity
      (paidDiscount (r.plan.price * r.quantity) r.wholesalePercent reservation)
      (submitPayment now r (discountOrder r reservation (savedOrder r.plan now (newOrder k now r p)))) :=
    ⟨hdiscount.ordered, hdiscount.amounts⟩
  exact hsubmitted.saved (paidDiscount_le _ _) hquantity

/-- A reservation takes what the preview shows, and both are for a quantity that is allowed. -/
theorem reserve_ok {code : String} {customer : Option ℕ} {quantity : ℕ}
    {reserved : Option Reservation × Db}
    (h : reserveDiscountUsage now plan code customer quantity db = .ok reserved)
    (percent : ℕ) : 0 < quantity ∧
      (∀ res ∈ reserved.1, res.amount ≤ plan.price * quantity) ∧
      calculateBotPricing now plan quantity customer percent code db =
        .ok ⟨plan.price * quantity, paidDiscount (plan.price * quantity) percent reserved.1,
          plan.price * quantity - paidDiscount (plan.price * quantity) percent reserved.1⟩ := by
  rw [reserveDiscountUsage] at h
  split at h
  · cases h
  · next hquantity =>
      rw [not_or, not_lt] at hquantity
      refine ⟨Nat.pos_of_ne_zero hquantity.1, ?_⟩
      have hallowed : ¬ (quantity = 0 ∨ maxOrderQuantity < quantity) := by omega
      rw [calculateBotPricing, if_neg hallowed]
      split at h
      · next hcode =>
          cases h
          rw [if_pos hcode]
          exact ⟨by simp, rfl⟩
      · next hcode =>
          rw [if_neg hcode, previewDiscount, if_neg hallowed, if_neg hcode]
          cases hfound : db.discounts.rows.find? (·.code = code) with
          | none =>
              rw [hfound] at h
              cases h
          | some d =>
              rw [hfound] at h
              dsimp only at h ⊢
              cases howner : validateRewardDiscountOwner db d.pk customer with
              | error e =>
                  rw [howner] at h
                  cases h
              | ok u =>
                  cases hvalid : d.validateForPlan plan.pk now with
                  | error e =>
                      rw [howner, hvalid] at h
                      cases h
                  | ok v =>
                      rw [howner, hvalid] at h
                      cases h
                      have hle := d.calculateDiscount_le (plan.price * quantity)
                      refine ⟨fun res hres => ?_, ?_⟩
                      · cases hres
                        exact hle
                      · rw [paidDiscount, Option.map_some, Option.getD_some, min_eq_left hle]
                        rfl

theorem chargedRenewal_charged {r : RenewalRequest} {delivered : Order} {store : Option ℕ}
    (hres : ∀ res ∈ reservation, res.amount ≤ plan.price * 1) :
    Charged plan.price 1 (paidDiscount (plan.price * 1) r.wholesalePercent reservation)
      (chargedRenewal k now p r plan delivered store reservation) := by
  rw [chargedRenewal]
  refine Charged.saved ⟨rfl, ?_⟩ (paidDiscount_le _ _) Nat.one_pos
  rw [orderAmounts, paidDiscount, Nat.mul_one]
  cases reservation with
  | none => rfl
  | some res =>
      have hmin : min res.amount plan.price = res.amount := by
        have hle := hres res rfl
        omega
      simp only [Option.map_some, Option.getD_some, hmin]

/-- Every created order has the amounts that were announced for it. -/
theorem created_charged (h : c.create now db = .ok (plan, o)) :
    ∃ quantity discount, 0 < quantity ∧ discount ≤ plan.price * quantity ∧
      Charged plan.price quantity discount o ∧
      ∀ price ∈ c.announced now db plan, price = .ok (orderAmounts o) := by
  cases c with
  | manual r p =>
      rw [OrderCreation.create] at h
      cases hreserved : reserveDiscountUsage now r.plan r.discountCode r.customer r.quantity db with
      | error e =>
          rw [hreserved] at h
          cases h
      | ok reserved =>
          rw [hreserved] at h
          cases h
          obtain ⟨hquantity, -, hannounced⟩ := reserve_ok hreserved r.wholesalePercent
          have hcharged := @chargedOrder_charged now db.orders.nextKey r p reserved.1 hquantity
          refine ⟨_, _, hquantity, paidDiscount_le _ _, hcharged, fun price hprice => ?_⟩
          cases hprice
          rw [hannounced, hcharged.amounts]
  | renewal r p =>
      rw [OrderCreation.create] at h
      cases hterms : renewalTerms r db with
      | error e =>
          rw [hterms] at h
          cases h
      | ok terms =>
          obtain ⟨plan', delivered, store⟩ := terms
          rw [hterms] at h
          dsimp only at h
          cases hreserved : reserveDiscountUsage now plan' r.discountCode r.customer 1 db with
          | error e =>
              rw [hreserved] at h
              cases h
          | ok reserved =>
              rw [hreserved] at h
              cases h
              obtain ⟨hquantity, hres, hannounced⟩ := reserve_ok hreserved r.wholesalePercent
              have hcharged := @chargedRenewal_charged now plan db.orders.nextKey p reserved.1 r
                delivered store hres
              refine ⟨_, _, hquantity, paidDiscount_le _ _, hcharged, fun price hprice => ?_⟩
              cases hprice
              rw [hannounced, hcharged.amounts]
  | grant r =>
      cases h
      have hnew : Charged r.plan.price 1 r.plan.price
          (AdminGrants.reservedOrder db.orders.nextKey now r) := by
        refine ⟨rfl, ?_⟩
        rw [orderAmounts, Nat.mul_one, Nat.sub_self]
        rfl
      refine ⟨1, r.plan.price, Nat.one_pos, by omega, hnew.saved (by omega) Nat.one_pos, ?_⟩
      intro price hprice
      cases hprice

/-! ## Saves of a created order -/

/-- The row and all instances have the amounts. -/
def HasAmounts (a : OrderAmounts) (s : OrderCopies) : Prop :=
  orderAmounts s.row = a ∧ ∀ i, orderAmounts (s.copies i) = a

theorem writeColumns_amounts {fields : List String} (h : orderAmounts o = orderAmounts row) :
    orderAmounts (writeColumns fields o row) = orderAmounts row := by
  rw [orderAmounts, orderAmounts, OrderAmounts.mk.injEq] at h ⊢
  refine ⟨?_, ?_, ?_⟩
  · exact (ite_eq_right_iff.mpr fun _ => h.1)
  · exact (ite_eq_right_iff.mpr fun _ => h.2.1)
  · exact (ite_eq_right_iff.mpr fun _ => h.2.2)

theorem saveRow_amounts {fields : Option (List String)}
    (h : orderAmounts (savedOrder plan now o) = orderAmounts row) :
    orderAmounts (saveRow fields plan now o row) = orderAmounts row := by
  cases fields with
  | none => exact h
  | some fields => exact writeColumns_amounts h

/-- A step keeps amounts with a sum exactly where there are some, or no price is found. -/
theorem saveStep_iff {a : OrderAmounts} (hsum : a.amount + a.discount = a.original)
    (s : OrderCopies) (op : SaveOp) (h : HasAmounts a s) :
    HasAmounts a (saveStep s op) ↔ a.original ≠ 0 ∨ op.FindsNoPrice := by
  have hupdate (i : ℕ) (o : Order) (ho : orderAmounts o = a) (j : ℕ) :
      orderAmounts (Function.update s.copies i o j) = a := by
    by_cases hj : j = i
    · rw [hj, Function.update_self]
      exact ho
    · rw [Function.update_of_ne hj]
      exact h.2 j
  cases op with
  | load i => exact ⟨fun _ => .inr trivial, fun _ => ⟨h.1, hupdate i s.row h.1⟩⟩
  | assign i fields =>
      exact ⟨fun _ => .inr trivial,
        fun _ => ⟨h.1, hupdate i _ ((fields.keeps (s.copies i)).trans (h.2 i))⟩⟩
  | save i fields plan now =>
      have hcopy := h.2 i
      have hcopySum : (s.copies i).amount + (s.copies i).discountAmount =
          (s.copies i).originalAmount := by
        rw [← hcopy] at hsum
        exact hsum
      have horiginal : (s.copies i).originalAmount = a.original := by
        rw [← hcopy]
        rfl
      constructor
      · intro hkept
        by_contra hneither
        rw [not_or, not_not] at hneither
        have hsaved := hkept.2 i
        change orderAmounts (Function.update s.copies i _ i) = a at hsaved
        rw [Function.update_self] at hsaved
        have hnonzero := @savedOrder_zero now plan (s.copies i) (horiginal.trans hneither.1) hneither.2
        exact hnonzero ((congrArg OrderAmounts.original hsaved).trans hneither.1)
      · intro hprice
        have hsaved : orderAmounts (savedOrder plan now (s.copies i)) = a := by
          refine (savedOrder_amounts hcopySum ?_).trans hcopy
          rwa [horiginal]
        refine ⟨?_, hupdate i _ hsaved⟩
        exact (saveRow_amounts (hsaved.trans h.1.symm)).trans h.1

/-- The price of a created order is kept exactly where its plan has a price, or where no later save
finds the plan with one. -/
theorem priceKept_iff (h : c.create now db = .ok (plan, o)) (ops : List SaveOp) :
    PriceKept now db c plan o ops ↔ plan.price ≠ 0 ∨ ∀ op ∈ ops, op.FindsNoPrice := by
  obtain ⟨quantity, discount, hquantity, hle, hcharged, hannounced⟩ := created_charged h
  have hamounts := hcharged.amounts
  rw [orderAmounts, OrderAmounts.mk.injEq] at hamounts
  have hsum : (orderAmounts o).amount + (orderAmounts o).discount = (orderAmounts o).original := by
    change o.amount + o.discountAmount = o.originalAmount
    omega
  have hprice : (orderAmounts o).original ≠ 0 ↔ plan.price ≠ 0 := by
    change o.originalAmount ≠ 0 ↔ _
    rw [hamounts.1, Nat.mul_ne_zero_iff]
    exact ⟨And.left, fun hp => ⟨hp, hquantity.ne'⟩⟩
  have hruns := invariant_iff_guarded (saveStep_iff hsum) (s := ⟨o, fun _ => o⟩) ops
    ⟨rfl, fun _ => rfl⟩
  have hguarded : Guarded saveStep
      (fun _ op => (orderAmounts o).original ≠ 0 ∨ op.FindsNoPrice) ⟨o, fun _ => o⟩ ops ↔
        plan.price ≠ 0 ∨ ∀ op ∈ ops, op.FindsNoPrice := by
    rw [guarded_const, hprice]
    by_cases hp : plan.price = 0 <;> simp [hp]
  rw [← hguarded, ← hruns]
  refine ⟨fun hkept => hkept.kept, fun hkept => ⟨?_, ?_, ?_, hannounced, hkept⟩⟩
  · rw [hamounts.1, hcharged.ordered]
  · omega
  · omega

/-- A database without rows. -/
def unstockedShop : Db where
  orders := .empty
  sms := .empty
  clients := .empty
  inbounds := .empty
  panels := .empty
  plans := .empty
  stores := .empty
  automations := .empty

/-- A plan at a price, given away. -/
def giftOf (price : ℕ) : OrderCreation :=
  .grant
    { requestId := "gift"
      customer := 1
      plan := { pk := 1, price := price, trafficLimitBytes := 0, durationDays := 30, deviceLimit := 1 }
      store := none
      assignmentActor := none
      grantedBy := none }

/-- A later save of the order, with its plan at a price. -/
def saveAt (price : ℕ) : SaveOp :=
  .save 0 (some ["status"])
    { pk := 1, price := price, trafficLimitBytes := 0, durationDays := 30, deviceLimit := 1 } 9

/-- The price of a gift of a plan with a price is kept. -/
theorem gift_priceKept : ∃ plan o, (giftOf 500).create 0 unstockedShop = .ok (plan, o) ∧
    PriceKept 0 unstockedShop (giftOf 500) plan o [.load 0, saveAt 700] :=
  ⟨_, _, rfl, (priceKept_iff rfl _).mpr (.inl (by decide))⟩

/-- A free plan that gets a price later gives the orders of before that price. -/
theorem free_order_repriced : ¬ ∀ (now : Instant) (db : Db) (c : OrderCreation) (plan : Plan)
    (o : Order) (ops : List SaveOp), c.create now db = .ok (plan, o) →
      PriceKept now db c plan o ops := by
  intro h
  have hkept := ((h 0 unstockedShop (giftOf 0) _ _ [saveAt 100000] rfl).kept [saveAt 100000] [] rfl).1
  revert hkept
  decide

end Qasedak.Orders

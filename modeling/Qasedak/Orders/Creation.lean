import Qasedak.Orders.Db

/-! The orders that `order_services` creates. -/

namespace Qasedak.Orders

open Foundation Store

/-- The order of `create_renewal_payment_order`: it takes over the name, the uuid and the
inbound of the client. -/
def renewalPaymentOrder (k : ℕ) (publicId trackingCode : String) (customer store : Option ℕ)
    (plan : Plan) (discount : ℕ) (now : Instant) (c : VPNClient) : Order :=
  Order.save
    { pk := k
      publicId := publicId
      orderTrackingCode := trackingCode
      customer := customer
      store := store
      plan := plan.pk
      amount := plan.price - discount
      currency := plan.currency
      createdAt := now
      username := c.username
      uuid := c.uuid
      inbound := c.inbound
      subLink := some c.subLink
      directLink := some c.directLink
      metadata := { renewalClientPk := some c.pk } } now

@[simp] theorem renewalPaymentOrder_pk (k : ℕ) (publicId trackingCode : String)
    (customer store : Option ℕ) (plan : Plan) (discount : ℕ) (now : Instant) (c : VPNClient) :
    (renewalPaymentOrder k publicId trackingCode customer store plan discount now c).pk = k := rfl

/-- `create_renewal_payment_order`; the discount is the one that the code found. -/
def createRenewalPaymentOrder (publicId trackingCode : String) (currentStore : Option ℕ)
    (customer : Option ℕ) (discount : ℕ) (now : Instant) (c : VPNClient) (db : Db) :
    Except String (ℕ × Db) :=
  if c.isDeleted then .error "این کانفیگ حذف شده و قابل تمدید نیست."
  else match c.plan.bind db.plans.get? with
    | none => .error "این کانفیگ پلن قابل تمدید ندارد."
    | some plan =>
        match c.order.bind db.orders.get? with
        | none => .error "سفارش اصلی این کانفیگ پیدا نشد."
        | some delivered =>
            if customer.isSome ∧ delivered.customer ≠ customer then
              .error "این کانفیگ برای این حساب نیست."
            else
              let store := c.store <|> delivered.store <|> plan.store <|> currentStore
              let k := db.orders.nextKey
              let orders := db.orders.insert
                (renewalPaymentOrder k publicId trackingCode customer store plan discount now c)
                (renewalPaymentOrder_pk k publicId trackingCode customer store plan discount now c)
              .ok (k, { db with orders := orders })

end Qasedak.Orders

import Qasedak.Store.Model
import Qasedak.Foundation.Program
import Qasedak.Panels.Remote
import Qasedak.Store.PlanDelivery
import Qasedak.Payments.Matching

/-! Discount codes, and the rewards that reserve a code for one customer. -/

namespace Qasedak.Store

open Foundation

inductive DiscountType where
  | percentage
  | fixed
  deriving DecidableEq, Repr

structure DiscountCode where
  pk : ℕ
  code : String
  discountType : DiscountType := .percentage
  value : ℕ
  maxUsage : Option ℕ := none
  usedCount : ℕ := 0
  validFrom : Option Instant := none
  validUntil : Option Instant := none
  isActive : Bool := true
  applicablePlans : List ℕ := []
  deriving DecidableEq, Repr

inductive RewardStatus where
  | available
  | used
  | cancelled
  deriving DecidableEq, Repr

structure CustomerReward where
  pk : ℕ
  customer : ℕ
  status : RewardStatus := .available
  discountCode : Option ℕ := none
  deriving DecidableEq, Repr

abbrev DiscountCodes := Table DiscountCode.pk
abbrev CustomerRewards := Table CustomerReward.pk

namespace DiscountCode

/-- `DiscountCode.is_within_valid_window`. -/
def isWithinValidWindow (d : DiscountCode) (now : Instant) : Bool :=
  d.validFrom.all (· ≤ now) && d.validUntil.all (now ≤ ·)

/-- `DiscountCode.has_usage_available`. -/
def hasUsageAvailable (d : DiscountCode) : Bool := d.maxUsage.all (d.usedCount < ·)

/-- `DiscountCode.is_applicable_to_plan`. -/
def isApplicableToPlan (d : DiscountCode) (plan : ℕ) : Bool :=
  d.applicablePlans = [] || plan ∈ d.applicablePlans

/-- `DiscountCode.validate_for_plan`, with the checks of `validate_basic` first. -/
def validateForPlan (d : DiscountCode) (plan : ℕ) (now : Instant) : Except String Unit :=
  if d.discountType = .percentage ∧ 100 < d.value then
    .error "Percentage discounts cannot exceed 100."
  else if ¬ d.isActive then .error "Discount code is not active."
  else if ¬ d.isWithinValidWindow now then .error "Discount code is not valid right now."
  else if ¬ d.hasUsageAvailable then .error "Discount code usage limit has been reached."
  else if ¬ d.isApplicableToPlan plan then
    .error "Discount code is not available for this plan."
  else .ok ()

/-- `DiscountCode.calculate_discount`. -/
def calculateDiscount (d : DiscountCode) (amount : ℕ) : ℕ :=
  match d.discountType with
  | .percentage => min (amount * d.value / 100) amount
  | .fixed => min d.value amount

theorem calculateDiscount_le (d : DiscountCode) (amount : ℕ) :
    d.calculateDiscount amount ≤ amount := by
  unfold calculateDiscount
  cases d.discountType <;> exact Nat.min_le_right _ _

/-- A code that may be used for a plan has a use left. -/
theorem hasUsageAvailable_of_validateForPlan {d : DiscountCode} {plan : ℕ} {now : Instant}
    (h : d.validateForPlan plan now = .ok ()) : d.hasUsageAvailable = true := by
  unfold validateForPlan at h
  split at h
  · cases h
  split at h
  · cases h
  split at h
  · cases h
  split at h
  · cases h
  · rename_i husage
    simpa using husage

/-- The code after one more use. -/
def reserved (d : DiscountCode) : DiscountCode := { d with usedCount := d.usedCount + 1 }

/-- The code after a use was taken back; the filter is `used_count__gt=0`. -/
def released (d : DiscountCode) : DiscountCode := { d with usedCount := d.usedCount - 1 }

theorem reserved_pk (d : DiscountCode) : d.reserved.pk = d.pk := rfl

theorem released_pk (d : DiscountCode) : d.released.pk = d.pk := rfl

end DiscountCode

end Qasedak.Store

/-! Referrals between customers, and the gift packages that inviters earn by them. -/

namespace Qasedak.Store

open Foundation

/-- `Referral.Status`. -/
inductive ReferralStatus where
  | registered
  | purchased
  | cancelled
  deriving DecidableEq, Repr

structure Referral where
  pk : ℕ
  referrer : ℕ
  referredCustomer : ℕ
  referralCode : String
  status : ReferralStatus := .registered
  firstOrder : Option ℕ := none
  purchasedAt : Option Instant := none
  deriving DecidableEq, Repr

/-- `ReferralRewardLedger.Status`. -/
inductive LedgerStatus where
  | pending
  | available
  | redeemed
  | cancelled
  deriving DecidableEq, Repr

/-- A gift package; its traffic is in thousandths of a gigabyte. -/
structure ReferralRewardLedger where
  pk : ℕ
  inviter : ℕ
  invited : ℕ
  order : ℕ
  rewardGb : ℕ
  rewardDurationDays : ℕ := 30
  status : LedgerStatus := .pending
  redeemedConfig : Option ℕ := none
  availableAt : Option Instant := none
  redeemedAt : Option Instant := none
  appliedTrafficGb : ℕ := 0
  appliedDurationDays : ℕ := 0
  deriving DecidableEq, Repr

abbrev Referrals := Table Referral.pk
abbrev Ledgers := Table ReferralRewardLedger.pk

end Qasedak.Store

/-! The tables that the order services work on, and the programs over them. -/

namespace Qasedak.Orders

open Foundation Store Panels Payments

structure Db extends PaymentDb where
  clients : Clients
  inbounds : Inbounds
  panels : Panels
  plans : Plans
  stores : Stores
  automations : Automations
  customers : Customers := .empty
  deliveryConfigs : DeliveryConfigs := .empty
  deliverySources : DeliverySources := .empty
  recipes : Recipes := .empty
  rules : Rules := .empty
  pools : Pools := .empty
  assets : Assets := .empty
  allocations : Allocations := .empty
  cups : Cups := .empty
  discounts : DiscountCodes := .empty
  rewards : CustomerRewards := .empty
  referrals : Referrals := .empty
  ledgers : Ledgers := .empty

/-- The shop with its panels. -/
abbrev Shop := Sys Db Remote RemoteCall

/-- A program of the shop; its errors carry the text that the code shows. -/
abbrev ShopM := Prog Db Remote RemoteCall String

namespace Db

def setOrder (db : Db) (k : ℕ) (f : Order → Order) (hf : ∀ o, (f o).pk = o.pk) : Db :=
  { db with orders := db.orders.modify k f hf }

def setClient (db : Db) (k : ℕ) (f : VPNClient → VPNClient) (hf : ∀ c, (f c).pk = c.pk) : Db :=
  { db with clients := db.clients.modify k f hf }

def setInbound (db : Db) (k : ℕ) (f : Inbound → Inbound) (hf : ∀ i, (f i).pk = i.pk) : Db :=
  { db with inbounds := db.inbounds.modify k f hf }

/-- `order.vpn_clients`, by `("created_at", "pk")`. -/
def vpnClients (db : Db) (order : ℕ) : List VPNClient :=
  db.clients.rows.filter (·.order = some order)

theorem get?_setOrder_self {db : Db} {k : ℕ} {o : Order} {f : Order → Order}
    (hf : ∀ o, (f o).pk = o.pk) (h : db.orders.get? k = some o) :
    (db.setOrder k f hf).orders.get? k = some (f o) := by
  simp [setOrder, Table.get?_modify, h]

end Db

/-- `Model.objects.get(pk=order)` on the orders. -/
def getOrder (k : ℕ) : ShopM Order := do
  let o ← Prog.readDb (·.orders.get? k)
  Prog.orRaise "Order matching query does not exist." o

/-- Change an order's row and save it. -/
def saveOrder (now : Instant) (k : ℕ) (f : Order → Order) (hf : ∀ o, (f o).pk = o.pk) :
    ShopM Unit :=
  Prog.writeDb (·.setOrder k (fun o => (f o).save now) fun o => by rw [Order.save_pk, hf])

def saveClient (k : ℕ) (f : VPNClient → VPNClient) (hf : ∀ c, (f c).pk = c.pk) : ShopM Unit :=
  Prog.writeDb (·.setClient k f hf)

def getPlan (k : ℕ) : ShopM Plan := do
  let p ← Prog.readDb (·.plans.get? k)
  Prog.orRaise "Plan matching query does not exist." p

end Qasedak.Orders

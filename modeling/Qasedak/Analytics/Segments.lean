import Qasedak.Analytics.OrderRevenue
import Qasedak.Foundation.Table
import Qasedak.Revenue.Guards
import Mathlib.Data.List.Sort
import Mathlib.Data.List.Dedup

/-! # Customer statistics

`annotate_customer_queryset` of `store/customer_analytics.py`, and the lists of customers that are
selected and ordered by it. Volumes and reward balances, which no segment depends on, are left
out. -/

namespace Qasedak.Analytics

open Foundation Store Panels
open Revenue (days)

/-! ## Tables -/

structure CustomerRow where
  pk : ℕ
  displayName : String := ""
  isActive : Bool := true
  referredBy : Option ℕ := none
  createdAt : Instant := 0
  deriving DecidableEq, Repr

/-- An order with its customer and its dates. -/
structure CustomerOrder extends RevenueOrder where
  customer : Option ℕ
  createdAt : Instant
  verifiedAt : Option Instant := none

/-- The settings of a store. -/
structure AnalyticsStore where
  pk : ℕ
  isActive : Bool := true
  goodCustomerMinTotalAmount : ℕ := 500000
  loyalCustomerMinOrders30d : ℕ := 2
  topCustomersLimit : ℕ := 10
  inactiveCustomerDays : ℕ := 30
  deriving DecidableEq, Repr

/-- What the statistics read. -/
structure AnalyticsDb where
  stores : List AnalyticsStore := []
  customers : Table CustomerRow.pk
  /-- Keys count from one. -/
  customer_pos : ∀ c ∈ customers.rows, c.pk ≠ 0
  orders : List CustomerOrder := []
  clients : List VPNClient := []

/-- The database server: how it compares constants, and its sort keys of names. -/
structure Server where
  vendor : Vendor
  collate : String → List ℕ

/-! ## Settings -/

/-- `get_analytics_store`. -/
def getAnalyticsStore (db : AnalyticsDb) : Option AnalyticsStore :=
  let byId := db.stores.insertionSort fun s t => s.pk ≤ t.pk
  (byId.find? AnalyticsStore.isActive).or byId.head?

/-- `_setting_value`. -/
def settingValue (db : AnalyticsDb) (setting : AnalyticsStore → ℕ) (default : ℕ) : ℕ :=
  (getAnalyticsStore db).elim default setting

def goodCustomerMinTotalAmount (db : AnalyticsDb) : ℕ :=
  settingValue db AnalyticsStore.goodCustomerMinTotalAmount 500000

def loyalCustomerMinOrders30d (db : AnalyticsDb) : ℕ :=
  settingValue db AnalyticsStore.loyalCustomerMinOrders30d 2

def topCustomersLimit (db : AnalyticsDb) : ℕ :=
  max (settingValue db AnalyticsStore.topCustomersLimit 10) 1

def inactiveCustomerDays (db : AnalyticsDb) : ℕ :=
  max (settingValue db AnalyticsStore.inactiveCustomerDays 30) 1

/-! ## Orders in a period -/

/-- A period of time; a missing end is open. -/
structure Period where
  dateFrom : Option Instant := none
  dateTo : Option Instant := none
  deriving DecidableEq, Repr

/-- `get_period_range(PERIOD_LAST_30_DAYS)`. -/
def last30Days (now : Instant) : Period := ⟨some (now - days 30), some now⟩

/-- One bound of `_purchase_at_range_q`. -/
def purchaseAtQ (r : Instant → Prop) [DecidablePred r] (o : CustomerOrder) : Sql.Truth :=
  Sql.Truth.or (Sql.compare r o.verifiedAt)
    (Sql.Truth.and (some o.verifiedAt.isNone) (some (decide (r o.createdAt))))

/-- `_purchase_at_range_q`. -/
def purchaseAtRangeQ (period : Period) (o : CustomerOrder) : Sql.Truth :=
  Sql.Truth.and (period.dateFrom.elim (some true) fun t => purchaseAtQ (t ≤ ·) o)
    (period.dateTo.elim (some true) fun t => purchaseAtQ (· < t) o)

/-- `successful_order_q`. -/
def successfulOrderQ (period : Period) (o : CustomerOrder) : Sql.Truth :=
  Sql.Truth.and (completedPaidOrderQ o.toRevenueOrder) (purchaseAtRangeQ period o)

/-- `renewal_order_q`. -/
def renewalOrderQ (vendor : Vendor) (o : CustomerOrder) : Sql.Truth :=
  Sql.Truth.or (Sql.compare vendor.IsTrue (jsonKey o.metadata "renewal"))
    (hasKey o.metadata "renewal_client_pk")

/-- `_order_success_at_expression`. -/
def successAt (o : CustomerOrder) : Instant := o.verifiedAt.getD o.createdAt

/-- `_filter_successful_orders`. -/
def filterSuccessfulOrders (period : Period) (orders : List CustomerOrder) : List CustomerOrder :=
  orders.filter fun o => successfulOrderQ period o = some true

/-! ## Annotations -/

/-- The annotations of a customer. -/
structure CustomerStats where
  totalPaidAmount : ℕ := 0
  successfulOrdersCount : ℕ := 0
  renewalOrdersCount : ℕ := 0
  firstPurchaseAt : Option Instant := none
  lastPurchaseAt : Option Instant := none
  activeConfigsCount : ℕ := 0
  successfulReferralsCount : ℕ := 0
  successfulReferralAmount : ℕ := 0
  deriving DecidableEq, Repr

/-- `Coalesce(Subquery(… Sum(revenue_amount_expression()) …), 0)`. -/
def totalRevenue (vendor : Vendor) (orders : List CustomerOrder) : ℕ :=
  (Sql.sum (orders.map fun o => revenueAmountExpression vendor o.toRevenueOrder)).getD 0

/-- The orders of a customer. -/
def ordersOf (db : AnalyticsDb) (c : CustomerRow) : List CustomerOrder :=
  db.orders.filter fun o => o.customer = some c.pk

/-- `customer__referred_by`. -/
def referrerOf (db : AnalyticsDb) (o : CustomerOrder) : Option ℕ :=
  (o.customer.bind db.customers.get?).bind CustomerRow.referredBy

def activeConfigs (db : AnalyticsDb) (now : Instant) (c : CustomerRow) : List VPNClient :=
  db.clients.filter fun client =>
    client.order.any (fun k => (ordersOf db c).any fun o => o.pk = k) ∧
      client.status = .active ∧ (client.expiresAt = none ∨ ∃ t ∈ client.expiresAt, now < t)

/-- `annotate_customer_queryset`, for one customer. -/
def annotate (vendor : Vendor) (db : AnalyticsDb) (now : Instant) (period : Period)
    (c : CustomerRow) : CustomerStats :=
  let successful := filterSuccessfulOrders period (ordersOf db c)
  let referrals := filterSuccessfulOrders period
    (db.orders.filter fun o => referrerOf db o = some c.pk)
  { totalPaidAmount := totalRevenue vendor successful
    successfulOrdersCount := successful.length
    renewalOrdersCount := (successful.filter fun o => renewalOrderQ vendor o = some true).length
    firstPurchaseAt := (successful.map successAt).min?
    lastPurchaseAt := (successful.map successAt).max?
    activeConfigsCount := (activeConfigs db now c).length
    successfulReferralsCount := (referrals.map CustomerOrder.customer).dedup.length
    successfulReferralAmount := totalRevenue vendor referrals }

/-- `get_customer_stats`. -/
def getCustomerStats (vendor : Vendor) (db : AnalyticsDb) (now : Instant) (period : Period)
    (customer : ℕ) : CustomerStats :=
  ((db.customers.get? customer).map (annotate vendor db now period)).getD {}

/-! ## Ordered lists -/

/-- `order_by`, with the columns as one comparison. -/
def orderBy (columns : CustomerRow → CustomerRow → Ordering) (customers : List CustomerRow) :
    List CustomerRow :=
  customers.insertionSort fun c d => (columns c d).isLE

/-- `_apply_limit`. -/
def applyLimit (customers : List CustomerRow) : Option ℤ → List CustomerRow
  | none => customers
  | some limit => if limit ≤ 0 then [] else customers.take limit.toNat

/-- A filter on the annotations of the active customers. -/
def activeCustomers (server : Server) (db : AnalyticsDb) (now : Instant) (period : Period)
    (p : CustomerStats → Bool) : List CustomerRow :=
  db.customers.rows.filter fun c => c.isActive && p (annotate server.vendor db now period c)

section Columns

variable (server : Server) (db : AnalyticsDb) (now : Instant) (period : Period)

/-- `-column`, for a column of the annotations. -/
def descending {α : Type*} [Ord α] (column : CustomerStats → α) (c d : CustomerRow) : Ordering :=
  compare (column (annotate server.vendor db now period d))
    (column (annotate server.vendor db now period c))

/-- `"display_name", "pk"`. -/
def byName (c d : CustomerRow) : Ordering :=
  (compareLex (fun c d : CustomerRow => compare (server.collate c.displayName)
    (server.collate d.displayName)) fun c d => compare c.pk d.pk) c d

end Columns

@[simp] theorem mem_orderBy {columns : CustomerRow → CustomerRow → Ordering}
    {customers : List CustomerRow} {c : CustomerRow} :
    c ∈ orderBy columns customers ↔ c ∈ customers := List.mem_insertionSort _

@[simp] theorem applyLimit_none {customers : List CustomerRow} :
    applyLimit customers none = customers := rfl

theorem mem_of_mem_applyLimit {customers : List CustomerRow} {limit : Option ℤ} {c : CustomerRow}
    (h : c ∈ applyLimit customers limit) : c ∈ customers := by
  cases limit with
  | none => exact h
  | some limit =>
      rw [applyLimit] at h
      split at h
      · cases h
      · exact List.mem_of_mem_take h

theorem mem_activeCustomers {server : Server} {db : AnalyticsDb} {now : Instant} {period : Period}
    {p : CustomerStats → Bool} {c : CustomerRow} :
    c ∈ activeCustomers server db now period p ↔
      c ∈ db.customers.rows ∧ c.isActive = true ∧
        p (annotate server.vendor db now period c) = true := by
  rw [activeCustomers, List.mem_filter, Bool.and_eq_true]

theorem getCustomerStats_eq {vendor : Vendor} {db : AnalyticsDb} {now : Instant} {period : Period}
    {c : CustomerRow} (hc : c ∈ db.customers.rows) :
    getCustomerStats vendor db now period c.pk = annotate vendor db now period c := by
  rw [getCustomerStats, Table.get?_eq_some_iff.mpr ⟨hc, rfl⟩, Option.map_some, Option.getD_some]

end Qasedak.Analytics

/-! # Customer segments

`get_customer_segment` asks for one customer what `get_customers_by_segment` selects from all. -/

namespace Qasedak.Analytics

open Foundation Store
open Revenue (days)

/-- `SUPPORTED_SEGMENTS`. -/
inductive Segment where
  | all
  | activeCustomers
  | activeConfig
  | customersWithoutOrder
  | loyal
  | good
  | newCustomer
  | topBuyer
  | topReferrer
  | inactive
  | noOrder
  deriving DecidableEq, Repr

/-! ## Lists of customers -/

section Lists

variable (server : Server) (db : AnalyticsDb) (now : Instant)

/-- `get_top_customers`, by the amount. -/
def getTopCustomers (period : Period) (limit : Option ℤ) : List CustomerRow :=
  let column {α : Type} [Ord α] := @descending server db now period α _
  applyLimit
    (orderBy
      (compareLex (column CustomerStats.totalPaidAmount)
        (compareLex (column CustomerStats.totalPaidAmount) (byName server)))
      (activeCustomers server db now period fun s => 0 < s.successfulOrdersCount))
    (some (limit.getD (topCustomersLimit db)))

/-- `get_loyal_customers`. -/
def getLoyalCustomers (period : Period) (limit : Option ℤ) : List CustomerRow :=
  let period := if period = {} then last30Days now else period
  let column {α : Type} [Ord α] := @descending server db now period α _
  applyLimit
    (orderBy
      (compareLex (column CustomerStats.successfulOrdersCount)
        (compareLex (column CustomerStats.renewalOrdersCount) (byName server)))
      (activeCustomers server db now period fun s =>
        loyalCustomerMinOrders30d db ≤ s.successfulOrdersCount || 1 ≤ s.renewalOrdersCount))
    limit

/-- `get_good_customers`. -/
def getGoodCustomers (period : Period) (limit : Option ℤ) : List CustomerRow :=
  applyLimit
    (orderBy
      (compareLex (descending server db now period CustomerStats.totalPaidAmount) (byName server))
      (activeCustomers server db now period fun s =>
        goodCustomerMinTotalAmount db ≤ s.totalPaidAmount))
    limit

/-- `get_top_referrers`. -/
def getTopReferrers (period : Period) (limit : Option ℤ) : List CustomerRow :=
  let column {α : Type} [Ord α] := @descending server db now period α _
  applyLimit
    (orderBy
      (compareLex (column CustomerStats.successfulReferralAmount)
        (compareLex (column CustomerStats.successfulReferralsCount) (byName server)))
      (activeCustomers server db now period fun s => 0 < s.successfulReferralsCount))
    (some (limit.getD (topCustomersLimit db)))

end Lists

/-! ## Conditions -/

/-- Bought for the first time at `recentFrom` or later. -/
def IsNew (recentFrom : Instant) (s : CustomerStats) : Prop :=
  ∃ t ∈ s.firstPurchaseAt, recentFrom ≤ t

def HasNoOrder (s : CustomerStats) : Prop := s.successfulOrdersCount = 0

/-- Bought for the last time before `cutoff`. -/
def IsInactive (cutoff : Instant) (s : CustomerStats) : Prop :=
  ∃ t ∈ s.lastPurchaseAt, t < cutoff

instance (recentFrom : Instant) (s : CustomerStats) : Decidable (IsNew recentFrom s) :=
  inferInstanceAs (Decidable (∃ t ∈ s.firstPurchaseAt, _))

instance (s : CustomerStats) : Decidable (HasNoOrder s) := inferInstanceAs (Decidable (_ = _))

instance (cutoff : Instant) (s : CustomerStats) : Decidable (IsInactive cutoff s) :=
  inferInstanceAs (Decidable (∃ t ∈ s.lastPurchaseAt, _))

def recentFrom (now : Instant) : Instant := now - days 30

def inactiveCutoff (db : AnalyticsDb) (now : Instant) : Instant :=
  now - days (inactiveCustomerDays db)

/-! ## The segment of a customer and the customers of a segment -/

section Segments

variable (server : Server) (db : AnalyticsDb) (now : Instant)

/-- `get_customer_segment`, of a customer with a key. -/
def getCustomerSegment (customer : ℕ) : Segment :=
  let limit := some (topCustomersLimit db : ℤ)
  let stats := getCustomerStats server.vendor db now {} customer
  let recentStats := getCustomerStats server.vendor db now (last30Days now) customer
  if customer = 0 then .noOrder
  else if customer ∈ (getTopCustomers server db now {} limit).map CustomerRow.pk then .topBuyer
  else if customer ∈ (getTopReferrers server db now {} limit).map CustomerRow.pk then .topReferrer
  else if loyalCustomerMinOrders30d db ≤ recentStats.successfulOrdersCount ∨
      1 ≤ stats.renewalOrdersCount then .loyal
  else if goodCustomerMinTotalAmount db ≤ stats.totalPaidAmount then .good
  else if IsNew (recentFrom now) stats then .newCustomer
  else if HasNoOrder stats then .noOrder
  else if IsInactive (inactiveCutoff db now) stats then .inactive
  else .activeCustomers

/-- `get_customers_by_segment`. -/
def getCustomersBySegment (segment : Segment) (period : Period) (limit : Option ℤ) :
    List CustomerRow :=
  let column {α : Type} [Ord α] := @descending server db now {} α _
  let byAmount := compareLex (descending server db now period CustomerStats.totalPaidAmount)
    (byName server)
  match segment with
  | .topBuyer => getTopCustomers server db now period limit
  | .topReferrer => getTopReferrers server db now period limit
  | .loyal => getLoyalCustomers server db now period limit
  | .good => getGoodCustomers server db now period limit
  | .noOrder | .customersWithoutOrder =>
      applyLimit
        (orderBy (compareLex (fun c d => compare d.createdAt c.createdAt) fun c d => compare c.pk d.pk)
          (activeCustomers server db now {} fun s => HasNoOrder s)) limit
  | .newCustomer =>
      applyLimit
        (orderBy (compareLex (column fun s => s.firstPurchaseAt) (byName server))
          (activeCustomers server db now {} fun s =>
            IsNew (period.dateFrom.getD (recentFrom now)) s)) limit
  | .inactive =>
      applyLimit
        (orderBy
          (compareLex (fun c d => column (fun s => s.lastPurchaseAt) d c) (byName server))
          (activeCustomers server db now {} fun s =>
            0 < s.successfulOrdersCount ∧ IsInactive (inactiveCutoff db now) s)) limit
  | .activeCustomers =>
      applyLimit
        (orderBy byAmount
          (activeCustomers server db now period fun s => 0 < s.successfulOrdersCount)) limit
  | .activeConfig =>
      applyLimit
        (orderBy byAmount
          (activeCustomers server db now period fun s => 0 < s.activeConfigsCount)) limit
  | .all =>
      applyLimit (orderBy byAmount (activeCustomers server db now period fun _ => true)) limit

end Segments

end Qasedak.Analytics

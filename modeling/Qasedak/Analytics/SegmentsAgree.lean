import Qasedak.Analytics.Segments

/-! # Segments agree

The customers of the segment lists are those whom the chain of `get_customer_segment` sends there,
but for customers who were loyal by a renewal of long ago. -/

namespace Qasedak.Analytics

open Foundation Store

variable {server : Server} {db : AnalyticsDb} {now : Instant} {c : CustomerRow}

/-! ## Members of the lists -/

theorem mem_rows_of_mem_topCustomers {period : Period} {limit : Option ℤ}
    (h : c ∈ getTopCustomers server db now period limit) : c ∈ db.customers.rows := by
  rw [getTopCustomers] at h
  exact (mem_activeCustomers.mp (mem_orderBy.mp (mem_of_mem_applyLimit h))).1

theorem mem_rows_of_mem_topReferrers {period : Period} {limit : Option ℤ}
    (h : c ∈ getTopReferrers server db now period limit) : c ∈ db.customers.rows := by
  rw [getTopReferrers] at h
  exact (mem_activeCustomers.mp (mem_orderBy.mp (mem_of_mem_applyLimit h))).1

/-- A customer is in a list exactly where the key is among those of the list. -/
theorem pk_mem_map_iff {customers : List CustomerRow} (h : ∀ d ∈ customers, d ∈ db.customers.rows)
    (hc : c ∈ db.customers.rows) : c.pk ∈ customers.map CustomerRow.pk ↔ c ∈ customers := by
  constructor
  · intro hpk
    obtain ⟨d, hd, hkey⟩ := List.mem_map.mp hpk
    obtain rfl := List.inj_on_of_nodup_map db.customers.keys_nodup (h d hd) hc hkey
    exact hd
  · exact List.mem_map_of_mem

theorem mem_loyal : c ∈ getLoyalCustomers server db now {} none ↔
    c ∈ db.customers.rows ∧ c.isActive = true ∧
      (loyalCustomerMinOrders30d db ≤
          (annotate server.vendor db now (last30Days now) c).successfulOrdersCount ∨
        1 ≤ (annotate server.vendor db now (last30Days now) c).renewalOrdersCount) := by
  rw [getLoyalCustomers]
  simp only [if_pos, applyLimit_none, mem_orderBy, mem_activeCustomers, Bool.or_eq_true,
    decide_eq_true_eq]

theorem mem_good : c ∈ getGoodCustomers server db now {} none ↔
    c ∈ db.customers.rows ∧ c.isActive = true ∧
      goodCustomerMinTotalAmount db ≤ (annotate server.vendor db now {} c).totalPaidAmount := by
  simp only [getGoodCustomers, applyLimit_none, mem_orderBy, mem_activeCustomers,
    decide_eq_true_eq]

theorem mem_newCustomer : c ∈ getCustomersBySegment server db now .newCustomer {} none ↔
    c ∈ db.customers.rows ∧ c.isActive = true ∧
      IsNew (recentFrom now) (annotate server.vendor db now {} c) := by
  simp only [getCustomersBySegment, applyLimit_none, mem_orderBy, mem_activeCustomers,
    Option.getD_none, decide_eq_true_eq]

theorem mem_noOrder : c ∈ getCustomersBySegment server db now .noOrder {} none ↔
    c ∈ db.customers.rows ∧ c.isActive = true ∧
      HasNoOrder (annotate server.vendor db now {} c) := by
  simp only [getCustomersBySegment, applyLimit_none, mem_orderBy, mem_activeCustomers,
    decide_eq_true_eq]

theorem mem_inactive : c ∈ getCustomersBySegment server db now .inactive {} none ↔
    c ∈ db.customers.rows ∧ c.isActive = true ∧
      0 < (annotate server.vendor db now {} c).successfulOrdersCount ∧
      IsInactive (inactiveCutoff db now) (annotate server.vendor db now {} c) := by
  simp only [getCustomersBySegment, applyLimit_none, mem_orderBy, mem_activeCustomers,
    decide_eq_true_eq]

theorem mem_activeSegment : c ∈ getCustomersBySegment server db now .activeCustomers {} none ↔
    c ∈ db.customers.rows ∧ c.isActive = true ∧
      0 < (annotate server.vendor db now {} c).successfulOrdersCount := by
  simp only [getCustomersBySegment, applyLimit_none, mem_orderBy, mem_activeCustomers,
    decide_eq_true_eq]

/-! ## Agreement -/

/-- Every active customer is in the list of the own segment, and who is listed in a segment of the
life cycle meets its condition. -/
structure SegmentsAgree (server : Server) (db : AnalyticsDb) (now : Instant) : Prop where
  listed : ∀ c ∈ db.customers.rows, c.isActive = true →
    c ∈ getCustomersBySegment server db now (getCustomerSegment server db now c.pk) {} none
  isNew : ∀ c ∈ getCustomersBySegment server db now .newCustomer {} none,
    IsNew (recentFrom now) (getCustomerStats server.vendor db now {} c.pk)
  isInactive : ∀ c ∈ getCustomersBySegment server db now .inactive {} none,
    IsInactive (inactiveCutoff db now) (getCustomerStats server.vendor db now {} c.pk)
  hasNoOrder : ∀ c ∈ getCustomersBySegment server db now .noOrder {} none,
    HasNoOrder (getCustomerStats server.vendor db now {} c.pk)

/-- Neither a top buyer nor a top referrer. -/
def Ordinary (server : Server) (db : AnalyticsDb) (now : Instant) (c : CustomerRow) : Prop :=
  c ∉ getTopCustomers server db now {} none ∧ c ∉ getTopReferrers server db now {} none

/-- An active ordinary customer with few orders of late, who has renewed at any time, has renewed
in the last thirty days. -/
def RenewsLately (server : Server) (db : AnalyticsDb) (now : Instant) (c : CustomerRow) : Prop :=
  c.isActive = true → Ordinary server db now c →
    (annotate server.vendor db now (last30Days now) c).successfulOrdersCount <
      loyalCustomerMinOrders30d db →
    1 ≤ (annotate server.vendor db now {} c).renewalOrdersCount →
    1 ≤ (annotate server.vendor db now (last30Days now) c).renewalOrdersCount

theorem getTopCustomers_limit : getTopCustomers server db now {} (some (topCustomersLimit db : ℤ)) =
    getTopCustomers server db now {} none := rfl

theorem getTopReferrers_limit : getTopReferrers server db now {} (some (topCustomersLimit db : ℤ)) =
    getTopReferrers server db now {} none := rfl

/-- The chain of `get_customer_segment`, for a customer of the database. -/
theorem getCustomerSegment_eq (hc : c ∈ db.customers.rows) :
    getCustomerSegment server db now c.pk =
      if c ∈ getTopCustomers server db now {} none then .topBuyer
      else if c ∈ getTopReferrers server db now {} none then .topReferrer
      else if loyalCustomerMinOrders30d db ≤
            (annotate server.vendor db now (last30Days now) c).successfulOrdersCount ∨
          1 ≤ (annotate server.vendor db now {} c).renewalOrdersCount then .loyal
      else if goodCustomerMinTotalAmount db ≤
          (annotate server.vendor db now {} c).totalPaidAmount then .good
      else if IsNew (recentFrom now) (annotate server.vendor db now {} c) then .newCustomer
      else if HasNoOrder (annotate server.vendor db now {} c) then .noOrder
      else if IsInactive (inactiveCutoff db now) (annotate server.vendor db now {} c) then .inactive
      else .activeCustomers := by
  rw [getCustomerSegment]
  simp only [getCustomerStats_eq hc, if_neg (db.customer_pos c hc), getTopCustomers_limit,
    getTopReferrers_limit, pk_mem_map_iff (fun d => mem_rows_of_mem_topCustomers) hc,
    pk_mem_map_iff (fun d => mem_rows_of_mem_topReferrers) hc]

/-- A customer is in the list of the own segment exactly where no old renewal decides. -/
theorem listed_iff (hc : c ∈ db.customers.rows) (hactive : c.isActive = true) :
    c ∈ getCustomersBySegment server db now (getCustomerSegment server db now c.pk) {} none ↔
      RenewsLately server db now c := by
  rw [getCustomerSegment_eq hc]
  by_cases hbuyer : c ∈ getTopCustomers server db now {} none
  · rw [if_pos hbuyer]
    exact iff_of_true hbuyer fun _ hordinary => absurd hbuyer hordinary.1
  rw [if_neg hbuyer]
  by_cases hreferrer : c ∈ getTopReferrers server db now {} none
  · rw [if_pos hreferrer]
    exact iff_of_true hreferrer fun _ hordinary => absurd hreferrer hordinary.2
  rw [if_neg hreferrer]
  by_cases hloyal : loyalCustomerMinOrders30d db ≤
        (annotate server.vendor db now (last30Days now) c).successfulOrdersCount ∨
      1 ≤ (annotate server.vendor db now {} c).renewalOrdersCount
  · -- The list of the loyal counts the renewals of its own period.
    rw [if_pos hloyal]
    change c ∈ getLoyalCustomers server db now {} none ↔ _
    rw [mem_loyal]
    constructor
    · rintro ⟨-, -, hrecent | hrenewed⟩ - - hfew -
      · exact absurd hrecent (Nat.not_le.mpr hfew)
      · exact hrenewed
    · intro h
      refine ⟨hc, hactive, ?_⟩
      by_cases hrecent : loyalCustomerMinOrders30d db ≤
          (annotate server.vendor db now (last30Days now) c).successfulOrdersCount
      · exact .inl hrecent
      · exact .inr (h hactive ⟨hbuyer, hreferrer⟩ (Nat.not_le.mp hrecent)
          (hloyal.resolve_left hrecent))
  rw [if_neg hloyal]
  refine iff_of_true ?_ fun _ _ _ hrenewed => absurd (.inr hrenewed) hloyal
  split
  · next hgood => exact mem_good.mpr ⟨hc, hactive, hgood⟩
  split
  · next hnew => exact mem_newCustomer.mpr ⟨hc, hactive, hnew⟩
  split
  · next hnone => exact mem_noOrder.mpr ⟨hc, hactive, hnone⟩
  next hsome =>
    have hpos := Nat.pos_of_ne_zero hsome
    split
    · next hinactive => exact mem_inactive.mpr ⟨hc, hactive, hpos, hinactive⟩
    · exact mem_activeSegment.mpr ⟨hc, hactive, hpos⟩

/-- The segments agree exactly where every customer renews lately. -/
theorem segmentsAgree_iff (server : Server) (db : AnalyticsDb) (now : Instant) :
    SegmentsAgree server db now ↔ ∀ c ∈ db.customers.rows, RenewsLately server db now c := by
  constructor
  · intro h c hc hactive
    exact (listed_iff hc hactive).mp (h.listed c hc hactive) hactive
  · intro h
    refine ⟨fun c hc hactive => (listed_iff hc hactive).mpr (h c hc), fun c hc => ?_,
      fun c hc => ?_, fun c hc => ?_⟩
    · obtain ⟨hrow, -, hnew⟩ := mem_newCustomer.mp hc
      rwa [getCustomerStats_eq hrow]
    · obtain ⟨hrow, -, -, hinactive⟩ := mem_inactive.mp hc
      rwa [getCustomerStats_eq hrow]
    · obtain ⟨hrow, -, hnone⟩ := mem_noOrder.mp hc
      rwa [getCustomerStats_eq hrow]

/-- Two customers, of whom the first buys most; the second renewed once, a hundred days ago. -/
def renewedLongAgo : AnalyticsDb where
  stores := [{ pk := 1, topCustomersLimit := 1 }]
  customers := ⟨[{ pk := 1, displayName := "a" }, { pk := 2, displayName := "b" }], by decide⟩
  customer_pos := by decide
  orders := [
    { pk := 1, status := .completed, isPaid := true, amount := 900000, customer := some 1
      createdAt := Revenue.days 199 },
    { pk := 2, status := .completed, isPaid := true, amount := 100000, customer := some 2
      createdAt := Revenue.days 100, metadata := .obj [("renewal", .bool true)] }]

/-- A database server that orders no names. -/
def plainServer : Server := ⟨.postgresql, fun _ => []⟩

theorem renewedLongAgo_not_listed :
    getCustomerSegment plainServer renewedLongAgo (Revenue.days 200) 2 = .loyal ∧
      getCustomersBySegment plainServer renewedLongAgo (Revenue.days 200) .loyal {} none = [] ∧
      ¬ SegmentsAgree plainServer renewedLongAgo (Revenue.days 200) := by
  have hsegment : getCustomerSegment plainServer renewedLongAgo (Revenue.days 200) 2 = .loyal := by
    decide
  have hlist : getCustomersBySegment plainServer renewedLongAgo (Revenue.days 200) .loyal {} none =
      [] := by
    decide
  refine ⟨hsegment, hlist, fun h => ?_⟩
  have hlisted := h.listed { pk := 2, displayName := "b" } (by decide) rfl
  rw [hsegment, hlist] at hlisted
  cases hlisted

end Qasedak.Analytics

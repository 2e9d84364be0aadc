import Qasedak.Foundation.Sql
import Qasedak.Foundation.Table
import Qasedak.Panels.PanelJson

/-! # The revenue of an order

`store/order_revenue.py` says twice what an order counts for: in Python for the pages of the
order, and as a SQL expression for the totals of the reports. -/

namespace Qasedak.Analytics

open Foundation Store Panels

/-! ## Metadata -/

/-- The databases that the settings allow. -/
inductive Vendor where
  | postgresql
  | sqlite
  deriving DecidableEq, Repr

/-- `metadata -> key`; a document that is no object has no keys. -/
def jsonKey (metadata : Json) (key : String) : Option Json :=
  match metadata with
  | .obj fields => fields.lookup key
  | _ => none

/-- `metadata__key=True`. On SQLite the names of the constants are compared, and the text `true`
has the same name. -/
def Vendor.IsTrue : Vendor → Json → Prop
  | _, .bool b => b = true
  | .sqlite, .str s => s = "true"
  | _, _ => False

instance (vendor : Vendor) : DecidablePred vendor.IsTrue := by
  intro v
  cases vendor <;> cases v <;> unfold Vendor.IsTrue <;> infer_instance

/-- The value is the text `s`. -/
def IsText (s : String) : Json → Prop
  | .str t => t = s
  | _ => False

instance (s : String) : DecidablePred (IsText s) := by
  intro v
  cases v <;> unfold IsText <;> infer_instance

/-- `metadata__key__isnull=False`. -/
def hasKey (metadata : Json) (key : String) : Sql.Truth := some (jsonKey metadata key).isSome

/-! ## Orders -/

/-- The columns of an order that revenue depends on. -/
structure RevenueOrder where
  pk : ℕ
  status : OrderStatus
  isPaid : Bool
  amount : ℕ
  revenueIncluded : Option Bool := none
  revenueAmount : Option ℕ := none
  metadata : Json := .obj []

/-- What the calls of the module raise. -/
inductive RevenueError where
  | attributeError
  | validationError (message : String)
  deriving DecidableEq, Repr

/-- `is_admin_direct_order`. A document without `get` raises, unless `or {}` replaces it. -/
def isAdminDirectOrder (o : RevenueOrder) : Except RevenueError Bool :=
  match o.metadata with
  | .obj fields =>
      .ok ((field fields "admin_direct_purchase").truthy ||
        IsText "admin_direct_purchase" (field fields "source"))
  | metadata => if metadata.truthy then .error .attributeError else .ok false

/-- `order_counts_in_revenue`. -/
def orderCountsInRevenue (o : RevenueOrder) : Except RevenueError Bool := do
  return !(← isAdminDirectOrder o) && o.revenueIncluded ≠ some false

/-- `order_revenue_amount`. -/
def orderRevenueAmount (o : RevenueOrder) : Except RevenueError ℕ := do
  if !(← orderCountsInRevenue o) || o.status ≠ .completed || !o.isPaid then
    return 0
  return if o.revenueIncluded = some true then o.revenueAmount.getD 0 else o.amount

/-- `completed_paid_order_q`. -/
def completedPaidOrderQ (o : RevenueOrder) : Sql.Truth :=
  Sql.Truth.and (some (o.status = .completed)) (some o.isPaid)

/-- `revenue_amount_expression`. -/
def revenueAmountExpression (vendor : Vendor) (o : RevenueOrder) : Option ℕ :=
  Sql.case [
    (Sql.compare vendor.IsTrue (jsonKey o.metadata "admin_direct_purchase"), some 0),
    (Sql.compare (IsText "admin_direct_purchase") (jsonKey o.metadata "source"), some 0),
    (Sql.Truth.not o.revenueIncluded, some 0),
    (completedPaidOrderQ o, Sql.case [(o.revenueIncluded, o.revenueAmount)] (some o.amount))]
    (some 0)

/-- `update_order_revenue`. -/
def updateOrderRevenue (included : Bool) (amount : Option ℤ) (o : RevenueOrder) :
    Except RevenueError RevenueOrder :=
  (isAdminDirectOrder o).bind fun direct =>
    if direct ∧ included then
      .error (.validationError "خرید مستقیم ادمین در درآمد حساب نمی‌شود.")
    else if included ∧ ¬ amount.any fun n => 0 < n ∧ n ≤ 2147483647 then
      .error (.validationError "مبلغ درآمد باید مثبت باشد.")
    else .ok { o with
      revenueIncluded := some included
      revenueAmount := if included then amount.map Int.toNat else none }

/-! ## Both readings by cases -/

/-- The document is an object, or one that `or {}` replaces. -/
def Readable (metadata : Json) : Prop := (∃ fields, metadata = .obj fields) ∨ metadata.truthy = false

/-- The flag of an administrator's purchase, as Python takes it. -/
def Flagged (metadata : Json) : Prop :=
  ∃ v, jsonKey metadata "admin_direct_purchase" = some v ∧ v.truthy = true

/-- The flag as the database takes it. -/
def FlaggedTrue (vendor : Vendor) (metadata : Json) : Prop :=
  ∃ v, jsonKey metadata "admin_direct_purchase" = some v ∧ vendor.IsTrue v

def NamesSource (metadata : Json) : Prop :=
  ∃ v, jsonKey metadata "source" = some v ∧ IsText "admin_direct_purchase" v

/-- A paid and completed order that is not excluded by hand. -/
def Earned (o : RevenueOrder) : Prop :=
  o.status = .completed ∧ o.isPaid = true ∧ o.revenueIncluded ≠ some false

/-- What an order counts for, where it counts; missing where none was chosen. -/
def booked (o : RevenueOrder) : Option ℕ :=
  if o.revenueIncluded = some true then o.revenueAmount else some o.amount

variable {vendor : Vendor} {o : RevenueOrder} {metadata : Json}

theorem FlaggedTrue.flagged (h : FlaggedTrue vendor metadata) : Flagged metadata := by
  obtain ⟨v, hv, htrue⟩ := h
  refine ⟨v, hv, ?_⟩
  cases v with
  | bool b => cases vendor <;> exact htrue
  | str s =>
      cases vendor with
      | postgresql => exact htrue.elim
      | sqlite => exact decide_eq_true (htrue ▸ by decide)
  | null | int _ | float _ | arr _ | obj _ => cases vendor <;> exact htrue.elim

theorem isAdminDirectOrder_of_readable (h : Readable o.metadata) :
    ∃ direct, isAdminDirectOrder o = .ok direct ∧
      (direct = true ↔ Flagged o.metadata ∨ NamesSource o.metadata) := by
  rcases h with ⟨fields, hfields⟩ | hfalse
  · have hflag : (field fields "admin_direct_purchase").truthy = true ↔ Flagged o.metadata := by
      rw [Flagged, hfields, jsonKey, field]
      cases fields.lookup "admin_direct_purchase" <;> simp [Json.truthy]
    have hsource : IsText "admin_direct_purchase" (field fields "source") ↔
        NamesSource o.metadata := by
      rw [NamesSource, hfields, jsonKey, field]
      cases fields.lookup "source" <;> simp [IsText]
    refine ⟨(field fields "admin_direct_purchase").truthy ||
      decide (IsText "admin_direct_purchase" (field fields "source")), ?_, ?_⟩
    · rw [isAdminDirectOrder, hfields]
    · rw [Bool.or_eq_true, decide_eq_true_eq, hflag, hsource]
  · refine ⟨false, ?_, ?_⟩
    · rw [isAdminDirectOrder]
      cases hmetadata : o.metadata with
      | obj fields =>
          rw [hmetadata] at hfalse
          cases fields with
          | nil => rfl
          | cons x fields => cases hfalse
      | null | bool _ | int _ | float _ | str _ | arr _ =>
          rw [hmetadata] at hfalse
          exact if_neg (by rw [hfalse]; exact Bool.false_ne_true)
    · have hnone (key : String) : jsonKey o.metadata key = none := by
        cases hmetadata : o.metadata with
        | obj fields =>
            rw [hmetadata] at hfalse
            cases fields with
            | nil => rfl
            | cons x fields => cases hfalse
        | null | bool _ | int _ | float _ | str _ | arr _ => rfl
      simp [Flagged, NamesSource, hnone]

theorem isAdminDirectOrder_of_not_readable (h : ¬ Readable o.metadata) :
    isAdminDirectOrder o = .error .attributeError := by
  rw [isAdminDirectOrder]
  split
  · next fields hfields => exact absurd (.inl ⟨fields, hfields⟩) h
  · exact if_pos (by simpa using fun hfalse => h (.inr hfalse))

/-- The page shows what is booked for an order that counts. -/
theorem orderRevenueAmount_of_counted (hreadable : Readable o.metadata) (hearned : Earned o)
    (hflag : ¬ Flagged o.metadata) (hsource : ¬ NamesSource o.metadata) :
    orderRevenueAmount o = .ok ((booked o).getD 0) := by
  obtain ⟨direct, hdirect, hiff⟩ := isAdminDirectOrder_of_readable hreadable
  have hfalse : direct = false :=
    Bool.eq_false_iff.mpr fun h => (hiff.mp h).elim hflag hsource
  obtain ⟨hstatus, hpaid, hincluded⟩ := hearned
  rw [orderRevenueAmount, orderCountsInRevenue, hdirect, hfalse, booked]
  split <;> simp_all [bind, Except.bind, pure, Except.pure]

theorem orderRevenueAmount_of_not_counted (hreadable : Readable o.metadata)
    (h : Earned o → Flagged o.metadata ∨ NamesSource o.metadata) :
    orderRevenueAmount o = .ok 0 := by
  obtain ⟨direct, hdirect, hiff⟩ := isAdminDirectOrder_of_readable hreadable
  rw [orderRevenueAmount, orderCountsInRevenue, hdirect]
  by_cases hearned : Earned o
  · have htrue : direct = true := hiff.mpr (h hearned)
    simp [bind, Except.bind, pure, Except.pure, htrue]
  · have hout : o.revenueIncluded = some false ∨ o.status ≠ .completed ∨ o.isPaid = false := by
      simp only [Earned, not_and_or, Bool.not_eq_true, not_not] at hearned
      tauto
    rcases hout with hout | hout | hout <;> simp [bind, Except.bind, pure, Except.pure, hout]

theorem orderRevenueAmount_of_not_readable (h : ¬ Readable o.metadata) :
    orderRevenueAmount o = .error .attributeError := by
  rw [orderRevenueAmount, orderCountsInRevenue, isAdminDirectOrder_of_not_readable h]
  rfl

theorem completedPaidOrderQ_eq_true :
    completedPaidOrderQ o = some true ↔ o.status = .completed ∧ o.isPaid = true := by
  simp [completedPaidOrderQ]

/-- The database counts what is booked for an order that counts there. -/
theorem revenueAmountExpression_of_counted (hearned : Earned o)
    (hflag : ¬ FlaggedTrue vendor o.metadata) (hsource : ¬ NamesSource o.metadata) :
    revenueAmountExpression vendor o = booked o := by
  obtain ⟨hstatus, hpaid, hincluded⟩ := hearned
  rw [FlaggedTrue] at hflag
  rw [NamesSource] at hsource
  rw [revenueAmountExpression]
  simp only [Sql.case_cons, Sql.case_nil, Sql.compare_eq_true, Sql.Truth.not_eq_true]
  rw [if_neg hflag, if_neg hsource, if_neg hincluded,
    if_pos (completedPaidOrderQ_eq_true.mpr ⟨hstatus, hpaid⟩), booked]

theorem revenueAmountExpression_of_not_counted
    (h : Earned o → FlaggedTrue vendor o.metadata ∨ NamesSource o.metadata) :
    revenueAmountExpression vendor o = some 0 := by
  rw [revenueAmountExpression]
  simp only [Sql.case_cons, Sql.case_nil, Sql.compare_eq_true, Sql.Truth.not_eq_true]
  split
  · rfl
  · next hflag =>
      split
      · rfl
      · next hsource =>
          split
          · rfl
          · next hincluded =>
              refine if_neg fun hpaid => ?_
              have hdone := completedPaidOrderQ_eq_true.mp hpaid
              exact (h ⟨hdone.1, hdone.2, hincluded⟩).elim hflag hsource

/-- What an update of the revenue leaves. -/
theorem updateOrderRevenue_ok {included : Bool} {amount : Option ℤ} {o' : RevenueOrder}
    (h : updateOrderRevenue included amount o = .ok o') :
    Readable o.metadata ∧ ∃ booking, o' = { o with
        revenueIncluded := some included
        revenueAmount := booking } ∧
      (included = true → booking ≠ none ∧ ¬ Flagged o.metadata ∧ ¬ NamesSource o.metadata) := by
  by_cases hreadable : Readable o.metadata
  · obtain ⟨direct, hdirect, hiff⟩ := isAdminDirectOrder_of_readable hreadable
    rw [updateOrderRevenue, hdirect, Except.bind] at h
    split at h
    · cases h
    · next hdirect' =>
        split at h
        · cases h
        · next hamount =>
            refine ⟨hreadable, _, (Except.ok.inj h).symm, fun hincluded => ⟨?_, ?_⟩⟩
            · cases amount with
              | none => exact absurd ⟨hincluded, by simp⟩ hamount
              | some n => simp [hincluded]
            · have hnot : ¬ (Flagged o.metadata ∨ NamesSource o.metadata) :=
                fun hmark => hdirect' ⟨hiff.mpr hmark, hincluded⟩
              exact not_or.mp hnot
  · rw [updateOrderRevenue, isAdminDirectOrder_of_not_readable hreadable] at h
    cases h

end Qasedak.Analytics

/-! # One revenue

The pages and the reports read the same columns of an order. When both find the same amount, and
what the updates of the revenue keep of that. -/

namespace Qasedak.Analytics

open Foundation Store Panels

/-! ## Totals -/

/-- The page of the order shows what the database counts. -/
def Agrees (vendor : Vendor) (o : RevenueOrder) : Prop :=
  ∃ n, orderRevenueAmount o = .ok n ∧ revenueAmountExpression vendor o = some n

/-- `aggregate(total=Sum(revenue_amount_expression()))["total"] or 0`. -/
def aggregateTotal (vendor : Vendor) (orders : List RevenueOrder) : ℕ :=
  (Sql.sum (orders.map (revenueAmountExpression vendor))).getD 0

/-- The sum of what the pages show. -/
def shownTotal (orders : List RevenueOrder) : Except RevenueError ℕ :=
  (orders.mapM orderRevenueAmount).map List.sum

abbrev RevenueOrders := Table RevenueOrder.pk

/-- Each order counts for one amount, and any total for the sum of these. -/
def OneRevenue (vendor : Vendor) (orders : RevenueOrders) : Prop :=
  (∀ o ∈ orders.rows, Agrees vendor o) ∧
    ∀ selected : List RevenueOrder, (∀ o ∈ selected, o ∈ orders.rows) →
      shownTotal selected = .ok (aggregateTotal vendor selected)

/-! ## Updates -/

/-- A call of `update_order_revenue`. -/
structure RevenueUpdate where
  order : ℕ
  included : Bool
  amount : Option ℤ := none
  deriving DecidableEq, Repr

/-- The row after the call; one that raises writes nothing. -/
def RevenueUpdate.write (u : RevenueUpdate) (o : RevenueOrder) : RevenueOrder :=
  (updateOrderRevenue u.included u.amount o).toOption.getD o

variable {vendor : Vendor} {o : RevenueOrder} {orders : RevenueOrders} {u : RevenueUpdate}
  {selected : List RevenueOrder}

theorem RevenueUpdate.write_cases (u : RevenueUpdate) (o : RevenueOrder) :
    u.write o = o ∨ updateOrderRevenue u.included u.amount o = .ok (u.write o) := by
  rw [write]
  cases updateOrderRevenue u.included u.amount o with
  | error e => exact .inl rfl
  | ok o' => exact .inr rfl

theorem RevenueUpdate.write_pk (u : RevenueUpdate) (o : RevenueOrder) : (u.write o).pk = o.pk := by
  rcases u.write_cases o with h | h
  · rw [h]
  · obtain ⟨-, booking, heq, -⟩ := updateOrderRevenue_ok h
    rw [heq]

def RevenueUpdate.apply (orders : RevenueOrders) (u : RevenueUpdate) : RevenueOrders :=
  orders.modify u.order u.write u.write_pk

/-- The orders after some updates. -/
def updated (orders : RevenueOrders) (updates : List RevenueUpdate) : RevenueOrders :=
  updates.foldl RevenueUpdate.apply orders

/-! ## Clear orders -/

/-- The database counts the order. -/
def Counted (vendor : Vendor) (o : RevenueOrder) : Prop :=
  Earned o ∧ ¬ FlaggedTrue vendor o.metadata ∧ ¬ NamesSource o.metadata

/-- The metadata can be read, an order that is included by hand has an amount, and one that only
Python takes for an administrator's purchase counts for nothing. -/
structure Clear (vendor : Vendor) (o : RevenueOrder) : Prop where
  readable : Readable o.metadata
  chosen : Counted vendor o → o.revenueIncluded = some true → o.revenueAmount ≠ none
  marked : Counted vendor o → Flagged o.metadata → booked o = some 0

theorem booked_ne_none :
    booked o ≠ none ↔ (o.revenueIncluded = some true → o.revenueAmount ≠ none) := by
  rw [booked]
  split <;> simp_all

theorem agrees_iff_clear : Agrees vendor o ↔ Clear vendor o := by
  by_cases hreadable : Readable o.metadata
  · by_cases hcounted : Counted vendor o
    · have hdatabase := revenueAmountExpression_of_counted hcounted.1 hcounted.2.1 hcounted.2.2
      by_cases hflag : Flagged o.metadata
      · -- Python takes the flag, the database does not.
        have hpage := orderRevenueAmount_of_not_counted hreadable fun _ => .inl hflag
        rw [Agrees, hpage, hdatabase]
        constructor
        · rintro ⟨n, hn, hbooked⟩
          obtain rfl := Except.ok.inj hn
          exact ⟨hreadable, fun _ => booked_ne_none.mp (by simp [hbooked]), fun _ _ => hbooked⟩
        · intro h
          exact ⟨0, rfl, h.marked hcounted hflag⟩
      · have hpage := orderRevenueAmount_of_counted hreadable hcounted.1 hflag hcounted.2.2
        rw [Agrees, hpage, hdatabase]
        constructor
        · rintro ⟨n, -, hbooked⟩
          exact ⟨hreadable, fun _ => booked_ne_none.mp (by simp [hbooked]),
            fun _ h => absurd h hflag⟩
        · intro h
          obtain ⟨n, hn⟩ := Option.ne_none_iff_exists'.mp (booked_ne_none.mpr (h.chosen hcounted))
          exact ⟨n, by rw [hn, Option.getD_some], hn⟩
    · have hout : Earned o → FlaggedTrue vendor o.metadata ∨ NamesSource o.metadata := by
        intro hearned
        by_contra hmark
        exact hcounted ⟨hearned, not_or.mp hmark⟩
      have hpage := orderRevenueAmount_of_not_counted hreadable fun hearned =>
        (hout hearned).imp_left FlaggedTrue.flagged
      refine iff_of_true ⟨0, hpage, revenueAmountExpression_of_not_counted hout⟩ ⟨hreadable, ?_, ?_⟩
      · exact fun h => absurd h hcounted
      · exact fun h => absurd h hcounted
  · refine iff_of_false ?_ fun h => hreadable h.readable
    rintro ⟨n, hpage, -⟩
    rw [orderRevenueAmount_of_not_readable hreadable] at hpage
    cases hpage

/-- An update leaves a clear order clear. -/
theorem Clear.write (h : Clear vendor o) (u : RevenueUpdate) : Clear vendor (u.write o) := by
  rcases u.write_cases o with hsame | hok
  · rw [hsame]
    exact h
  · obtain ⟨hreadable, booking, heq, hincluded⟩ := updateOrderRevenue_ok hok
    rw [heq]
    refine ⟨hreadable, fun _ htrue => ?_, fun hcounted hflag => ?_⟩
    · exact (hincluded (Option.some.inj htrue)).1
    · have hnot : u.included = false :=
        Bool.eq_false_iff.mpr fun htrue => (hincluded htrue).2.1 hflag
      exact absurd (congrArg some hnot) hcounted.1.2.2

theorem clear_apply (h : ∀ o ∈ orders.rows, Clear vendor o) :
    ∀ o ∈ (u.apply orders).rows, Clear vendor o := by
  intro o ho
  obtain ⟨o', ho', rfl⟩ := List.mem_map.mp ho
  split
  · exact (h o' ho').write u
  · exact h o' ho'

theorem clear_updated (h : ∀ o ∈ orders.rows, Clear vendor o) (updates : List RevenueUpdate) :
    ∀ o ∈ (updated orders updates).rows, Clear vendor o := by
  induction updates generalizing orders with
  | nil => exact h
  | cons u updates ih => exact ih (clear_apply h)

/-! ## One definition of revenue -/

theorem shownTotal_of_agrees (h : ∀ o ∈ selected, Agrees vendor o) :
    shownTotal selected = .ok (aggregateTotal vendor selected) := by
  have hamounts : ∀ os : List RevenueOrder, (∀ o ∈ os, Agrees vendor o) →
      os.mapM orderRevenueAmount =
        .ok (os.map fun o => (revenueAmountExpression vendor o).getD 0) := by
    intro os
    induction os with
    | nil => exact fun _ => rfl
    | cons o os ih =>
        intro hos
        obtain ⟨n, hpage, hdatabase⟩ := hos o List.mem_cons_self
        have hrest := ih fun o' ho' => hos o' (List.mem_cons_of_mem o ho')
        rw [List.mapM_cons, hpage, hrest, List.map_cons, hdatabase]
        rfl
  have hpresent : ∀ o ∈ selected, revenueAmountExpression vendor o =
      some ((revenueAmountExpression vendor o).getD 0) := by
    intro o ho
    obtain ⟨n, -, hdatabase⟩ := h o ho
    rw [hdatabase, Option.getD_some]
  rw [shownTotal, hamounts selected h, aggregateTotal, Sql.sum_map_getD hpresent]
  rfl

theorem oneRevenue_iff : OneRevenue vendor orders ↔ ∀ o ∈ orders.rows, Clear vendor o := by
  constructor
  · intro h o ho
    exact agrees_iff_clear.mp (h.1 o ho)
  · intro h
    have hagrees : ∀ o ∈ orders.rows, Agrees vendor o := fun o ho => agrees_iff_clear.mpr (h o ho)
    exact ⟨hagrees, fun selected hselected =>
      shownTotal_of_agrees fun o ho => hagrees o (hselected o ho)⟩

/-- Whatever the revenue of the orders is updated to, pages and reports agree exactly where every
order is clear at first. -/
theorem oneRevenue_updated_iff (vendor : Vendor) (orders : RevenueOrders) :
    (∀ updates, OneRevenue vendor (updated orders updates)) ↔
      ∀ o ∈ orders.rows, Clear vendor o := by
  constructor
  · intro h
    exact oneRevenue_iff.mp (h [])
  · intro h updates
    exact oneRevenue_iff.mpr (clear_updated h updates)

/-- A purchase whose flag is the number one, and an order that was imported as included and
without an amount. -/
def driftingOrders : RevenueOrders where
  rows := [
    { pk := 1, status := .completed, isPaid := true, amount := 100000
      metadata := .obj [("admin_direct_purchase", .int 1)] },
    { pk := 2, status := .completed, isPaid := true, amount := 70000
      revenueIncluded := some true }]
  keys_nodup := by decide

theorem driftingOrders_disagree :
    driftingOrders.rows.map (revenueAmountExpression .postgresql) = [some 100000, none] ∧
      driftingOrders.rows.map orderRevenueAmount = [.ok 0, .ok 0] ∧
      aggregateTotal .postgresql driftingOrders.rows = 100000 ∧
      shownTotal driftingOrders.rows = .ok 0 ∧
      ¬ OneRevenue .postgresql (updated driftingOrders []) := by
  refine ⟨rfl, rfl, rfl, rfl, fun h => ?_⟩
  have htotal := h.2 driftingOrders.rows fun o ho => ho
  exact absurd (Except.ok.inj htotal) (by decide)

end Qasedak.Analytics

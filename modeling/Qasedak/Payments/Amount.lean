import Qasedak.Payments.Matching

/-! The two comparisons of an order with an amount in rial: the matching of bank SMS
and the analysis of receipts. -/

namespace Qasedak.Payments

open Foundation Store

/-- `expected_amount_in_rial` of `receipt_analysis`; none for other currencies. -/
def expectedAmountInRial (amount : ℕ) : Currency → Option ℕ
  | .toman => some (amount * 10)
  | .irr => some amount
  | .usd => none

/-- The order should be matched by a deposit of `a` rial at `t`. -/
def PaysInRial (o : Order) (a : ℕ) (t : Instant) : Prop :=
  o.status ∈ pendingOrderStatuses ∧ InMatchWindow t o ∧
    expectedAmountInRial o.amount o.currency = some a

/-- The stored amount of the order and its amount in rial agree on whether they are `a`. -/
def AgreesInRial (o : Order) (a : ℕ) : Prop :=
  match o.currency with
  | .irr => True
  | .toman => o.amount = 0 ∨ (a ≠ o.amount ∧ a ≠ o.amount * 10)
  | .usd => a ≠ o.amount

theorem agreesInRial_iff (o : Order) (a : ℕ) :
    AgreesInRial o a ↔
      (o.amount = a ↔ expectedAmountInRial o.amount o.currency = some a) := by
  cases hc : o.currency with
  | irr => simp [AgreesInRial, expectedAmountInRial, hc]
  | toman =>
      simp only [AgreesInRial, expectedAmountInRial, hc, Option.some.injEq]
      constructor
      · rintro (h | ⟨h, h'⟩) <;> constructor <;> intro _ <;> omega
      · rintro ⟨h, h'⟩
        by_cases ha : o.amount = a
        · left
          have := h ha
          omega
        · right
          exact ⟨fun h => ha h.symm, fun h => ha (h' h.symm)⟩
  | usd =>
      simp only [AgreesInRial, expectedAmountInRial, hc, reduceCtorEq, iff_false]
      exact ⟨fun h h' => h h'.symm, fun h h' => h h'.symm⟩

/-- The matching compares the stored amount, so it is right about an order exactly when
the stored amount and the amount in rial agree on the deposit, or the order is not
pending or outside the window anyway. -/
theorem findMatchingOrders_inRial_iff {orders : Orders} {o : Order} (ho : o ∈ orders.rows)
    (a : ℕ) (t : Instant) :
    (o ∈ findMatchingOrders orders a t ↔ PaysInRial o a t) ↔
      (o.status ∉ pendingOrderStatuses ∨ ¬ InMatchWindow t o ∨ AgreesInRial o a) := by
  rw [mem_findMatchingOrders, PaysInRial, agreesInRial_iff]
  by_cases hp : o.status ∈ pendingOrderStatuses
  · by_cases hw : InMatchWindow t o
    · simp [ho, hp, hw]
    · simp [hw]
  · simp [hp]

/-- An order of 483,000 toman, which is 4,830,000 rial. -/
def tomanOrder : Order := { pk := 1, plan := 1, amount := 483000 }

def tomanOrders : Orders := ⟨[tomanOrder], by decide⟩

theorem findMatchingOrders_inRial_iff_tomanOrder :
    (tomanOrder ∈ findMatchingOrders tomanOrders 20 0 ↔ PaysInRial tomanOrder 20 0) ↔
      (tomanOrder.status ∉ pendingOrderStatuses ∨ ¬ InMatchWindow 0 tomanOrder ∨
        AgreesInRial tomanOrder 20) :=
  findMatchingOrders_inRial_iff (List.mem_singleton_self tomanOrder) 20 0

/-- A deposit of 483,000 rial, a tenth of its price, matches the order. -/
theorem tenth_of_price_matches :
    ¬ ∀ (orders : Orders) (o : Order) (a : ℕ) (t : Instant), o ∈ orders.rows →
      (o ∈ findMatchingOrders orders a t ↔ PaysInRial o a t) := by
  intro h
  have hmatch : tomanOrder ∈ findMatchingOrders tomanOrders 483000 0 := by decide
  have hpays := (h tomanOrders tomanOrder 483000 0 (List.mem_singleton_self _)).mp hmatch
  exact absurd hpays.2.2 (by decide)

end Qasedak.Payments

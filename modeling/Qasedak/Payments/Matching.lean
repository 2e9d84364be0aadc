import Qasedak.Payments.SmsParser
import Mathlib.Data.List.Sort
import Mathlib.Data.Finset.Basic

/-! `payments/payment_matching.py`: the orders an SMS may pay for, and the three
operations on its row. -/

namespace Qasedak.Payments

open Foundation Store

/-- `IncomingPaymentSMS.Status`. -/
inductive SmsStatus where
  | new
  | matched
  | confirmed
  | dismissed
  | noMatch
  deriving DecidableEq, Repr

structure IncomingPaymentSMS where
  pk : ℕ
  rawText : List Char
  amount : ℕ
  balance : ℕ
  smsDatetime : Instant
  status : SmsStatus := .new
  /-- The keys of `matched_orders`. -/
  matchedOrders : Finset ℕ := ∅
  deriving DecidableEq

structure PaymentDb where
  orders : Orders
  sms : Table IncomingPaymentSMS.pk

/-! ## Matching -/

def matchWindowBefore : Instant := minutes 30

def matchWindowAfter : Instant := minutes 15

/-- `PENDING_ORDER_STATUSES`. -/
def pendingOrderStatuses : List OrderStatus :=
  [.pendingPayment, .pendingVerification, .pending]

/-- `_order_total_field`: `total_price` is a property of the model and no field of it. -/
def orderTotalField (o : Order) : ℕ := o.amount

/-- The creation window of `find_matching_orders` around the time of the SMS. -/
def InMatchWindow (smsDatetime : Instant) (o : Order) : Prop :=
  smsDatetime - matchWindowBefore ≤ o.createdAt ∧ o.createdAt ≤ smsDatetime + matchWindowAfter

instance (t : Instant) (o : Order) : Decidable (InMatchWindow t o) :=
  inferInstanceAs (Decidable (_ ∧ _))

/-- The order `("created_at", "pk")`. -/
def CreatedBefore (o o' : Order) : Prop :=
  o.createdAt < o'.createdAt ∨ (o.createdAt = o'.createdAt ∧ o.pk ≤ o'.pk)

instance : DecidableRel CreatedBefore := fun _ _ => inferInstanceAs (Decidable (_ ∨ _))

/-- `find_matching_orders`. -/
def findMatchingOrders (orders : Orders) (amount : ℕ) (smsDatetime : Instant) : List Order :=
  (orders.rows.filter fun o =>
    o.status ∈ pendingOrderStatuses ∧ InMatchWindow smsDatetime o ∧
      orderTotalField o = amount).insertionSort CreatedBefore

theorem mem_findMatchingOrders {orders : Orders} {amount : ℕ} {t : Instant} {o : Order} :
    o ∈ findMatchingOrders orders amount t ↔
      o ∈ orders.rows ∧ o.status ∈ pendingOrderStatuses ∧ InMatchWindow t o ∧
        o.amount = amount := by
  simp only [findMatchingOrders, List.mem_insertionSort, List.mem_filter, decide_eq_true_eq]
  rfl

/-- The rows of `matched_orders`. -/
def matchedRows (orders : Orders) (s : IncomingPaymentSMS) : List Order :=
  orders.rows.filter (·.pk ∈ s.matchedOrders)

/-! ## Processing -/

/-- `process_incoming_payment_sms` on one row, with the orders it returns. -/
def processRow (orders : Orders) (s : IncomingPaymentSMS) : IncomingPaymentSMS × List Order :=
  if s.status = .confirmed then (s, (matchedRows orders s).insertionSort CreatedBefore)
  else
    let found := findMatchingOrders orders s.amount s.smsDatetime
    ({ s with
        matchedOrders := (found.map Order.pk).toFinset
        status := if found = [] then .noMatch else .matched }, found)

theorem processRow_pk (orders : Orders) (s : IncomingPaymentSMS) :
    (processRow orders s).1.pk = s.pk := by
  unfold processRow
  split <;> rfl

theorem processRow_of_confirmed {orders : Orders} {s : IncomingPaymentSMS}
    (h : s.status = .confirmed) : (processRow orders s).1 = s := by
  simp [processRow, h]

/-- `process_incoming_payment_sms`. -/
def processIncomingPaymentSms (db : PaymentDb) (sms : ℕ) : PaymentDb :=
  { db with sms := db.sms.modify sms (fun s => (processRow db.orders s).1) (processRow_pk db.orders) }

/-! ## Confirming and dismissing -/

inductive ConfirmError where
  | doesNotExist
  /-- "Choose exactly one matched order to confirm this SMS." -/
  | chooseExactlyOne
  /-- "The selected order is not linked to this SMS." -/
  | notLinked
  /-- "Rejected or cancelled orders cannot be confirmed by SMS." -/
  | refusedOrder
  deriving DecidableEq, Repr

/-- How the transaction of `confirm_incoming_payment_sms` ends with an order. -/
inductive Confirmation where
  /-- The row was confirmed before; nothing is written. -/
  | already (order : ℕ)
  /-- The order was marked as paid, confirmed and verified on behalf of the row. -/
  | paid (order : ℕ)
  deriving DecidableEq, Repr

/-- The fields `confirm_incoming_payment_sms` sets on the order. -/
def confirmOrder (user : Option ℕ) (now : Instant) (o : Order) : Order :=
  Order.save
    { o with
      isPaid := true
      status := if o.status = .completed then .completed else .confirmed
      verificationStatus := .verified
      verifiedBy := user.orElse fun _ => o.verifiedBy
      verifiedAt := o.verifiedAt.orElse fun _ => some now } now

@[simp] theorem confirmOrder_pk (user : Option ℕ) (now : Instant) (o : Order) :
    (confirmOrder user now o).pk = o.pk := rfl

/-- The order a confirmation is about: the only matched one, or the one the admin chose. -/
def chooseOrder (db : PaymentDb) (s : IncomingPaymentSMS) : Option ℕ → Except ConfirmError Order
  | none =>
      match matchedRows db.orders s with
      | [o] => .ok o
      | _ => .error .chooseExactlyOne
  | some k =>
      match db.orders.get? k with
      | none => .error .doesNotExist
      | some o => if k ∈ s.matchedOrders then .ok o else .error .notLinked

/-- The transaction of `confirm_incoming_payment_sms`. -/
def confirmTransaction (db : PaymentDb) (sms : ℕ) (order user : Option ℕ) (now : Instant) :
    Except ConfirmError (Confirmation × PaymentDb) :=
  match db.sms.get? sms with
  | none => .error .doesNotExist
  | some s =>
      match chooseOrder db s order with
      | .error e => .error e
      | .ok o =>
          if s.status = .confirmed then .ok (.already o.pk, db)
          else if o.status.Refused then .error .refusedOrder
          else .ok (.paid o.pk,
            { orders := db.orders.modify o.pk (confirmOrder user now) (confirmOrder_pk user now)
              sms := db.sms.modify sms
                (fun s => { s with
                  status := .confirmed
                  matchedOrders := insert o.pk s.matchedOrders }) (fun _ => rfl) })

/-- `dismiss_incoming_payment_sms`. -/
def dismissIncomingPaymentSms (db : PaymentDb) (sms : ℕ) : PaymentDb :=
  { db with sms := db.sms.modify sms (fun s => { s with status := .dismissed }) (fun _ => rfl) }

/-- A row that was confirmed before is left alone, with the orders. -/
theorem confirmTransaction_already {db db' : PaymentDb} {sms k : ℕ} {order user : Option ℕ}
    {now : Instant} (h : confirmTransaction db sms order user now = .ok (.already k, db')) :
    db' = db := by
  unfold confirmTransaction at h
  split at h
  · cases h
  · split at h
    · cases h
    · split_ifs at h
      · simp only [Except.ok.injEq, Prod.mk.injEq] at h
        exact h.2.symm
      · simp at h

/-- What the transaction does when it marks an order as paid: the row was not confirmed
and the order was one of its matched orders and not refused. -/
theorem confirmTransaction_paid {db db' : PaymentDb} {sms k : ℕ} {order user : Option ℕ}
    {now : Instant} (h : confirmTransaction db sms order user now = .ok (.paid k, db')) :
    ∃ s o, db.sms.get? sms = some s ∧ s.status ≠ .confirmed ∧
      db.orders.get? k = some o ∧ k ∈ s.matchedOrders ∧ ¬ o.status.Refused ∧
      db'.orders = db.orders.modify k (confirmOrder user now) (confirmOrder_pk user now) ∧
      db'.sms = db.sms.modify sms
        (fun s => { s with status := .confirmed, matchedOrders := insert k s.matchedOrders })
        (fun _ => rfl) := by
  unfold confirmTransaction at h
  cases hs : db.sms.get? sms with
  | none => simp [hs] at h
  | some s =>
      cases ho : chooseOrder db s order with
      | error e => simp [hs, ho] at h
      | ok o =>
          have hmem : db.orders.get? o.pk = some o ∧ o.pk ∈ s.matchedOrders := by
            cases order with
            | none =>
                simp only [chooseOrder] at ho
                split at ho
                · next o' hrows =>
                    obtain rfl : o' = o := by simpa using ho
                    have hin : o' ∈ matchedRows db.orders s := by rw [hrows]; simp
                    have := List.mem_filter.mp hin
                    exact ⟨Table.get?_eq_some_iff.mpr ⟨this.1, rfl⟩, by simpa using this.2⟩
                · cases ho
            | some j =>
                simp only [chooseOrder] at ho
                split at ho
                · cases ho
                · next o' hget =>
                    split at ho
                    · next hj =>
                        obtain rfl : o' = o := by simpa using ho
                        obtain ⟨-, rfl⟩ := Table.mem_of_get? hget
                        exact ⟨hget, hj⟩
                    · cases ho
          simp only [hs, ho] at h
          split at h
          · simp at h
          · next hnew =>
              split at h
              · cases h
              · next hopen =>
                  simp only [Except.ok.injEq, Prod.mk.injEq, Confirmation.paid.injEq] at h
                  obtain ⟨rfl, rfl⟩ := h
                  exact ⟨s, o, rfl, hnew, hmem.1, hmem.2, hopen, rfl, rfl⟩

/-- With an explicit order, that order is the one that is paid. -/
theorem confirmTransaction_paid_explicit {db db' : PaymentDb} {sms j k : ℕ} {user : Option ℕ}
    {now : Instant} (h : confirmTransaction db sms (some j) user now = .ok (.paid k, db')) :
    k = j := by
  unfold confirmTransaction at h
  split at h
  · cases h
  split at h
  · cases h
  rename_i o ho
  have hj : o.pk = j := by
    unfold chooseOrder at ho
    dsimp only at ho
    split at ho
    · cases ho
    rename_i o' hget
    split at ho
    · obtain rfl : o' = o := by simpa using ho
      exact (Table.mem_of_get? hget).2
    · cases ho
  split at h
  · simp at h
  split at h
  · cases h
  simp only [Except.ok.injEq, Prod.mk.injEq, Confirmation.paid.injEq] at h
  exact h.1.symm.trans hj

end Qasedak.Payments

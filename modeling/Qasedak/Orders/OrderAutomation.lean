import Qasedak.Foundation.Ranking
import Qasedak.Orders.Approval

/-! The regular run of the order automation: it approves receipts by the clock, and reminds the
admins of a store of what waits for them. Both read a limited number of rows. -/

namespace Qasedak.Orders.Automation

open Foundation Store Orders

/-! ## Approvals -/

def submittedAt (o : Order) : ℤ := o.paymentSubmittedAt.getD 0

/-- `order_by("payment_submitted_at", "pk")`. -/
def SubmittedBefore (a b : Order) : Prop :=
  submittedAt a < submittedAt b ∨ submittedAt a = submittedAt b ∧ a.pk ≤ b.pk

instance : DecidableRel SubmittedBefore := fun a b => inferInstanceAs (Decidable (_ ∨ _))

/-- A row of the query for candidates. -/
def isCandidate (db : Db) (o : Order) : Bool :=
  ((o.store.bind db.stores.get?).any fun store =>
    isPendingReceipt store o && store.orderAutoApproveEnabled) &&
      (db.automations.get? o.pk).all (·.autoApprovedAt.isNone)

def candidates (db : Db) : List Order := db.orders.rows.filter (isCandidate db)

/-- The orders that a run goes through. -/
def approvalCandidates (db : Db) (limit : ℕ) : List ℕ :=
  (((candidates db).insertionSort SubmittedBefore).take limit).map (·.pk)

/-- The summary of a run, with the orders whose approval it attempted. -/
structure AutomationSummary where
  attempted : List ℕ := []
  approved : ℕ := 0
  reminded : ℕ := 0
  failed : ℕ := 0

variable (delivery : Delivery)

/-- One attempt; an error is counted. -/
def attemptApproval (now : Instant) (order : ℕ) (summary : AutomationSummary) :
    ShopM AutomationSummary :=
  let summary := { summary with attempted := summary.attempted ++ [order] }
  Prog.onError (do
    let approved ← autoApproveOrder delivery now order
    return { summary with approved := summary.approved + approved.toNat }) fun _ =>
    return { summary with failed := summary.failed + 1 }

/-! ## Reminders -/

/-- `REMINDER_MINUTES`. -/
def reminderMinutes : List ℤ := [5, 15, 30]

/-- The audit row of an order, as `get_or_create` gives it. -/
def auditOf (db : Db) (order : ℕ) : OrderAutomation :=
  (db.automations.get? order).getD { order := order }

def ensureAudit (db : Db) (order : ℕ) : Db :=
  { db with automations := db.automations.put { order := order } }

/-- `reminder_due`. -/
def reminderDue (o : Order) (audit : OrderAutomation) (now : Instant) : Bool :=
  match reminderMinutes[audit.reminderStage]? with
  | some m => submittedAt o + minutes m ≤ now
  | none => audit.lastRemindedAt.all fun t => t + minutes 60 ≤ now

/-- A failed automatic approval of the store that waits for a review. -/
def isFailedAuto (db : Db) (store : StoreRow) (o : Order) : Bool :=
  o.store = some store.pk &&
    ((db.automations.get? o.pk).any fun a => a.reviewStatus = .pending && a.lastError ≠ "") &&
      o.paymentSubmittedAt.isSome &&
        !(o.status = .completed || o.status = .rejected || o.status = .cancelled)

def receipts (db : Db) (store : StoreRow) : List Order :=
  db.orders.rows.filter fun o => isPendingReceipt store o || isFailedAuto db store o

def lastReminded (db : Db) (o : Order) : Option ℤ := (auditOf db o.pk).lastRemindedAt

/-- The order of the receipts: those that nobody was reminded of come first. -/
def RemindedBefore (db : Db) (a b : Order) : Prop :=
  match lastReminded db a, lastReminded db b with
  | none, some _ => True
  | some _, none => False
  | none, none => SubmittedBefore a b
  | some t, some u => t < u ∨ t = u ∧ SubmittedBefore a b

instance (db : Db) : DecidableRel (RemindedBefore db) := fun a b => by
  unfold RemindedBefore
  exact match lastReminded db a, lastReminded db b with
    | none, some _ => inferInstanceAs (Decidable True)
    | some _, none => inferInstanceAs (Decidable False)
    | none, none => inferInstanceAs (Decidable (SubmittedBefore a b))
    | some _, some _ => inferInstanceAs (Decidable (_ ∨ _))

/-- The rows that a call reads. -/
def receiptsToReview (db : Db) (store : StoreRow) : List Order :=
  ((receipts db store).insertionSort (RemindedBefore db)).take 100

/-- The admins are to be reminded of the order. -/
def wantsReminder (db : Db) (now : Instant) (o : Order) : Bool :=
  !o.metadata.suppressNewOrderNotification &&
    ((auditOf db o.pk).autoApprovedAt.isNone || (auditOf db o.pk).lastError ≠ "") &&
      reminderDue o (auditOf db o.pk) now

/-- The loop over the rows: the due orders, and the database with the audit rows it made. -/
def collectDue (now : Instant) : List Order → List Order → Db → List Order × Db
  | [], due, db => (due, db)
  | o :: rest, due, db =>
      if o.metadata.suppressNewOrderNotification then collectDue now rest due db
      else
        let db := ensureAudit db o.pk
        let due := if wantsReminder db now o then due ++ [o] else due
        if 10 ≤ due.length then (due, db) else collectDue now rest due db

/-- `max(audit.reminder_stage, …)`, and the time of the reminder. -/
def markReminded (now : Instant) (o : Order) (audit : OrderAutomation) : OrderAutomation :=
  { audit with
    reminderStage := max audit.reminderStage
      (reminderMinutes.countP fun m => submittedAt o + minutes m ≤ now)
    lastRemindedAt := some now }

theorem markReminded_order (now : Instant) (o : Order) (audit : OrderAutomation) :
    (markReminded now o audit).order = audit.order := rfl

def remind (now : Instant) (db : Db) (o : Order) : Db :=
  { db with
    automations := db.automations.modify o.pk (markReminded now o) (markReminded_order now o) }

/-- `send_receipt_reminders`, given how many bots of the store took the message, or the error of
sending it. It tells which orders the message was about. -/
def sendReceiptReminders (now : Instant) (sent : Except String ℕ) (store : ℕ) :
    ShopM (List ℕ) :=
  Prog.atomic do
    let db ← Prog.readDb id
    let row ← Prog.orRaise "Store matching query does not exist." (db.stores.get? store)
    if ¬ row.isActive ∨ ¬ row.orderReviewRemindersEnabled then return []
    else do
      let collected := collectDue now (receiptsToReview db row) [] db
      Prog.writeDb fun _ => collected.2
      if collected.1 = [] then return []
      else do
        let sent ← Prog.ofExcept sent
        if sent = 0 then return []
        else do
          Prog.writeDb fun db => collected.1.foldl (remind now) db
          return collected.1.map (·.pk)

/-! ## The run -/

/-- One store; an error is counted. -/
def remindStore (now : Instant) (sent : ℕ → Except String ℕ) (store : ℕ)
    (summary : AutomationSummary) : ShopM AutomationSummary :=
  Prog.onError (do
    let reminded ← sendReceiptReminders now (sent store) store
    return { summary with reminded := summary.reminded + reminded.length }) fun _ =>
    return { summary with failed := summary.failed + 1 }

/-- `process_order_automation`, up to the notices of cancellations. -/
def processOrderAutomation (now : Instant) (limit : ℕ) (sent : ℕ → Except String ℕ) :
    ShopM AutomationSummary := do
  let ids ← Prog.readDb (approvalCandidates · limit)
  let summary ← Prog.forEach ids {} (attemptApproval delivery now)
  let stores ← Prog.readDb fun db => (db.stores.rows.filter (·.isActive)).map (·.pk)
  Prog.forEach stores summary (remindStore now sent)

end Qasedak.Orders.Automation

import Qasedak.Orders.Referrals
import Qasedak.Orders.Renewal

/-! `approve_and_provision_order` and the paths that call it: automatic approval, the
confirmation of a bank SMS, and manual retries. What a strategy delivers, and how an
inventory asset is assigned, are parameters here. -/

namespace Qasedak.Orders

open Foundation Store Panels Payments

/-- The parts of an approval that are developed on their own: the strategy that delivers
an order which is no renewal, and the assignment of an inventory asset. -/
structure Delivery where
  /-- `build_client_display_name`. -/
  displayName : Db → Order → String
  deliver : Instant → Option ℕ → ℕ → ShopM ProvisioningResult
  /-- Put the asset into a cup of the order; the text says why that failed. -/
  assignAsset : Instant → ℕ → ℕ → ShopM (Option String)

/-- A delivery for shops in which nothing but renewals is delivered. -/
def noDelivery : Delivery where
  displayName _ o := o.publicId
  deliver _ _ _ := return { ok := false, message := "" }
  assignAsset _ _ _ := return none

/-- Where an approval comes from. -/
inductive Source where
  | manual
  | manualRetry
  | smsAutoMatch
  | timedReceiptApproval
  deriving DecidableEq, Repr

/-! ## Guards -/

/-- `can_resend_order`. -/
def canResendOrder (o : Order) : Bool :=
  o.status = .completed && o.verificationStatus = .verified

/-- `order_has_partial_delivery`. -/
def orderHasPartialDelivery (o : Order) : Bool :=
  !orderIsRenewal o && (o.metadata.cupFulfillmentPartial || o.metadata.failedSourceResultCount ≠ 0)

/-- `_provisioning_block_reason`. -/
def provisioningBlockReason (o : Order) : Option String :=
  if o.status.Refused then some "order_status_not_provisionable"
  else if o.verificationStatus = .rejected then some "payment_rejected"
  else if o.status = .completed then some "completed_order_not_verified"
  else none

/-- The order's cancellation was recorded by order automation. -/
def cancellationRecorded (db : Db) (order : ℕ) : Bool :=
  match db.automations.get? order with
  | some a => a.reviewStatus.Cancelling
  | none => false

def isPartialRetry (source : Source) (o : Order) : Bool :=
  source = .manualRetry && o.status = .completed && orderHasPartialDelivery o

/-- What `_approve_and_provision_order` answers before it tries to deliver anything. -/
def earlyAnswer (db : Db) (source : Source) (o : Order) : Option ProvisioningResult :=
  if cancellationRecorded db o.pk then
    some { ok := false, message := "لغو این سفارش ثبت شده است؛ فعال‌سازی دوباره مجاز نیست." }
  else if canResendOrder o ∧ ¬ isPartialRetry source o then
    some { ok := true, message := "سفارش قبلاً تکمیل شده است.", alreadyProvisioned := true }
  else if isPartialRetry source o ∧ o.verificationStatus = .verified then none
  else match provisioningBlockReason o with
    | some reason =>
        some { ok := false, message := "این سفارش در وضعیت قابل تایید یا فعال‌سازی نیست."
               safeError := reason }
    | none => none

/-! ## Approval -/

section Approval

variable (delivery : Delivery)

/-- How the transaction of `_approve_and_provision_order` ends. -/
inductive Approved where
  /-- It answered without delivering; the function returns at once. -/
  | answered (r : ProvisioningResult)
  | attempted (r : ProvisioningResult)
  deriving DecidableEq, Repr

/-- The metadata of an attempt: the name prefix of the first one is kept. -/
def noteAttempt (db : Db) (o : Order) : Order :=
  { o with metadata := { o.metadata with
      provisioningEmailPrefix := o.metadata.provisioningEmailPrefix.orElse fun _ =>
        some (if o.username = "" then delivery.displayName db o else o.username) } }

/-- The transaction of `_approve_and_provision_order`. -/
def approveTransaction (now : Instant) (actor : Option ℕ) (source : Source) (order : ℕ) :
    ShopM Approved :=
  Prog.atomic do
    let o ← getOrder order
    let db ← Prog.readDb id
    match earlyAnswer db source o with
    | some r => return .answered r
    | none => do
        saveOrder now order (noteAttempt delivery db) (fun _ => rfl)
        let r ← if orderIsRenewal o then activateRenewalOrderLocked now actor order
          else delivery.deliver now actor order
        return .attempted r

/-- The write after a failed transaction: `FAILED` and the error, on the current row. -/
def recordFailure (now : Instant) (order : ℕ) (r : ProvisioningResult) : ShopM Unit := do
  let _ ← getOrder order
  saveOrder now order
    (fun o => { o with
      provisioningStatus := .failed
      lastProvisioningError := if r.safeError = "" then r.message else r.safeError })
    (fun _ => rfl)

/-- The message to the customer; it may fail, and the failure is not caught. -/
def notifyOrderEvent : ShopM Unit := Prog.remoteRead timedOut fun _ => .ok ()

/-- `_approve_and_provision_order`. -/
def approveOrder (now : Instant) (actor : Option ℕ) (source : Source) (notify : Bool)
    (order : ℕ) : ShopM ProvisioningResult := do
  let outcome ← approveTransaction delivery now actor source order
  match outcome with
  | .answered r => return r
  | .attempted r => do
      Prog.checkpoint
      if r.ok then do
        rewardReferrer now order
        if notify ∧ ¬ r.alreadyProvisioned then notifyOrderEvent
      else recordFailure now order r
      return r

/-- The transaction of `complete_inventory_assignment`. -/
def assignmentTransaction (now : Instant) (actor : Option ℕ) (order : ℕ) : ShopM Approved :=
  Prog.atomic do
    let o ← getOrder order
    let db ← Prog.readDb id
    if o.status = .completed then
      return .answered
        { ok := true, message := "این سفارش قبلاً تکمیل شده است.", alreadyProvisioned := true }
    else if cancellationRecorded db order then
      return .answered
        { ok := false, message := "لغو سفارش ثبت شده؛ اختصاص دوباره مجاز نیست." }
    else if o.status.Refused ∨ o.verificationStatus = .rejected then
      return .answered
        { ok := false, message := "سفارش لغوشده یا ردشده قابل اختصاص نیست." }
    else do
      let error ← delivery.assignAsset now order (o.metadata.adminInventoryAssetId.getD 0)
      match error with
      | some e => do
          saveOrder now order (fun o => { o with
            provisioningAttempts := o.provisioningAttempts + 1
            lastProvisioningError := e
            provisioningStatus := .failed }) (fun _ => rfl)
          return .attempted { ok := false, message := e }
      | none => do
          saveOrder now order (fun o => { o.markPaymentVerified actor now with
            provisioningAttempts := o.provisioningAttempts + 1
            lastProvisioningError := ""
            provisionedAt := some now
            provisioningStatus := .provisioned }) (fun _ => rfl)
          return .attempted { ok := true, message := "کانفیگ موجود به مشتری اختصاص یافت." }

/-- `complete_inventory_assignment`. -/
def completeInventoryAssignment (now : Instant) (actor : Option ℕ) (notify : Bool)
    (order : ℕ) : ShopM ProvisioningResult := do
  let outcome ← assignmentTransaction delivery now actor order
  match outcome with
  | .answered r => return r
  | .attempted r => do
      if r.ok ∧ notify then notifyOrderEvent
      return r

/-- `metadata["renewal_recovery_attempt"] = …`, saved. -/
def recordAttempt (now : Instant) (order : ℕ) (status : AttemptStatus) : ShopM Unit :=
  saveOrder now order
    (fun o => { o with metadata := { o.metadata with renewalRecoveryAttempt := some status } })
    (fun _ => rfl)

/-- The claim of a renewal: refused while another attempt runs, or is not known to have
ended. It tells whether a claim was written. -/
def claimRenewal (now : Instant) (order : ℕ) : ShopM (Except ProvisioningResult Bool) :=
  Prog.atomic do
    let current ← getOrder order
    if canResendOrder current ∨ current.status.Refused then return .ok false
    else if current.metadata.renewalRecoveryAttempt = some .running then
      return .error { ok := false, message := "عملیات قبلی تمدید در جریان است یا نتیجه آن نامشخص است؛ قبل از تکرار، پنل را بررسی کنید." }
    else do
      recordAttempt now order .running
      return .ok true

/-- `record_order_metadata(order, "renewal_recovery_attempt", finished)`. -/
def finishRenewal (now : Instant) (order : ℕ) : ShopM Unit :=
  Prog.atomic do
    let _ ← getOrder order
    recordAttempt now order .finished

/-- `approve_and_provision_order`. -/
def approveAndProvisionOrder (now : Instant) (actor : Option ℕ) (source : Source)
    (notify : Bool) (order : ℕ) : ShopM ProvisioningResult := do
  let o ← getOrder order
  if o.metadata.adminInventoryAssetId.isSome then
    completeInventoryAssignment delivery now actor notify order
  else if ¬ orderIsRenewal o then approveOrder delivery now actor source notify order
  else do
    let claim ← claimRenewal now order
    match claim with
    | .error r => return r
    | .ok false => approveOrder delivery now actor source notify order
    | .ok true => do
        Prog.checkpoint
        let r ← approveOrder delivery now actor source notify order
        Prog.checkpoint
        finishRenewal now order
        return r

/-! ## Callers -/

/-- `can_retry_order`. -/
def canRetryOrder (db : Db) (o : Order) : Bool :=
  !cancellationRecorded db o.pk && !decide o.status.Refused &&
    (o.status ≠ .completed || orderHasPartialDelivery o) &&
    o.verificationStatus ≠ .rejected &&
    (o.isPaid || o.paymentSubmittedAt.isSome || o.provisioningStatus = .failed ||
      o.provisioningStatus = .provisioning || o.metadata.panelProvisioningDeferred)

/-- `retry_order_completion`. -/
def retryOrderCompletion (now : Instant) (actor : Option ℕ) (order : ℕ) :
    ShopM ProvisioningResult := do
  let o ← getOrder order
  let db ← Prog.readDb id
  if canRetryOrder db o then approveAndProvisionOrder delivery now actor .manualRetry true order
  else return { ok := false, message := "تلاش مجدد برای این سفارش در دسترس نیست." }

/-- `confirm_incoming_payment_sms` with this order: its transaction, then the hook. -/
def confirmOrderBySms (now : Instant) (user : Option ℕ) (sms order : ℕ) : ShopM Unit := do
  let db ← Prog.readDb id
  match confirmTransaction db.toPaymentDb sms (some order) user now with
  | .error _ => Prog.raise "The SMS could not be confirmed."
  | .ok (.already _, _) => return
  | .ok (.paid k, payment) => do
      Prog.writeDb fun db => { db with toPaymentDb := payment }
      Prog.checkpoint
      Prog.onError (do
        let _ ← approveAndProvisionOrder delivery now user .smsAutoMatch true k
        return) (fun _ => return)

/-- `AUTO_APPROVE_DELAY`. -/
def autoApproveDelay : Instant := minutes 5

/-- `pending_receipts(store).filter(pk=order.pk).exists()`. -/
def isPendingReceipt (store : StoreRow) (o : Order) : Bool :=
  o.paymentMethod = .manualCard && o.paymentSubmittedAt.isSome &&
    o.verificationStatus = .pending &&
    (o.status = .pendingPayment || o.status = .pendingVerification) &&
    store.isActive && o.store = some store.pk && o.hasReceipt

/-- The first transaction of `auto_approve_order`, which claims the order. -/
def claimAutoApproval (now : Instant) (order : ℕ) : ShopM Bool :=
  Prog.atomic do
    let o ← getOrder order
    let db ← Prog.readDb id
    let store ← Prog.orRaise "Store matching query does not exist." (o.store.bind db.stores.get?)
    match store.orderAutoApproveEnabledAt, o.paymentSubmittedAt with
    | some enabledAt, some submittedAt =>
        if ¬ store.orderAutoApproveEnabled ∨ ¬ isPendingReceipt store o then return false
        else if now < max submittedAt enabledAt + autoApproveDelay ∨
            o.metadata.suppressNewOrderNotification then return false
        else match db.automations.get? order with
          | some audit =>
              if audit.autoApprovedAt.isSome then return false
              else do
                Prog.writeDb fun db => { db with
                  automations := db.automations.modify order
                    (fun a => { a with autoApprovedAt := some now, reviewStatus := .pending })
                    (fun _ => rfl) }
                return true
          | none => do
              Prog.writeDb fun db => { db with
                automations := db.automations.put
                  { order := order, autoApprovedAt := some now, reviewStatus := .pending } }
              return true
    | _, _ => return false

/-- Note an error in the audit row. -/
def noteAutomationError (order : ℕ) (e : String) : ShopM Unit :=
  Prog.writeDb fun db => { db with
    automations := db.automations.modify order (fun a => { a with lastError := e })
      (fun _ => rfl) }

/-- The second transaction of `auto_approve_order`, which wraps the whole approval. -/
def autoApprovalTransaction (now : Instant) (order : ℕ) : ShopM ProvisioningResult :=
  Prog.atomic do
    let _ ← getOrder order
    let r ← approveAndProvisionOrder delivery now none .timedReceiptApproval false order
    let _ ← getOrder order
    if r.ok ∧ ¬ r.alreadyProvisioned then Prog.onError notifyOrderEvent (fun _ => return)
    return r

/-- `auto_approve_order`. -/
def autoApproveOrder (now : Instant) (order : ℕ) : ShopM Bool := do
  let claimed ← claimAutoApproval now order
  if ¬ claimed then return false
  else do
    Prog.checkpoint
    Prog.onError (do
      let r ← autoApprovalTransaction delivery now order
      Prog.checkpoint
      if ¬ r.ok then
        noteAutomationError order "تحویل خودکار کامل نشد؛ نتیجه و خطای تحویل سفارش را بررسی کنید."
      return true) (fun _ => do
        noteAutomationError order
          "نتیجه تحویل نامشخص است؛ پیش از تلاش مجدد سرویس روی پنل را بررسی کنید."
        return true)

/-- `confirm_auto_payment`; the note and the review time are not modelled. -/
def confirmAutoPayment (now : Instant) (user : Option ℕ) (order : ℕ) : ShopM Unit :=
  Prog.atomic do
    let o ← getOrder order
    let db ← Prog.readDb id
    let audit ← Prog.orRaise "OrderAutomation matching query does not exist."
      (db.automations.get? order)
    if audit.autoApprovedAt.isNone ∨
        (audit.reviewStatus ≠ .pending ∧ audit.reviewStatus ≠ .verified) then
      Prog.raise "این تأیید خودکار در وضعیت قابل تطبیق نیست."
    else if o.status.Refused then Prog.raise "سفارش رد یا لغو شده است."
    else if audit.reviewStatus = .verified then return
    else do
      Prog.writeDb fun db => { db with
        automations := db.automations.modify order (fun a => { a with reviewStatus := .verified })
          (fun _ => rfl) }
      saveOrder now order (fun o => { o with
        verificationStatus := .verified
        isPaid := true
        verifiedBy := user
        verifiedAt := o.verifiedAt.orElse fun _ => some now }) (fun _ => rfl)
      let _ ← createReferralRewardForOrder now order

/-! ## Answers without an attempt -/

variable {now : Instant} {actor : Option ℕ} {source : Source} {notify : Bool} {k : ℕ} {s : Shop}

/-- Where the order is answered early, an approval does nothing else. -/
theorem wp_approveOrder_of_earlyAnswer {o : Order} {r : ProvisioningResult}
    (ho : s.db.orders.get? k = some o) (hr : earlyAnswer s.db source o = some r)
    {Q : ProvisioningResult → Shop → Prop} {X : Halt String → Shop → Prop} (hQ : Q r s) :
    Prog.wp (approveOrder delivery now actor source notify k) Q X s := by
  unfold approveOrder approveTransaction getOrder
  simpa [Prog.wp_orRaise, ho, hr] using hQ

/-- A refused order is answered early. -/
theorem earlyAnswer_of_refused (db : Db) (source : Source) {o : Order} (h : o.status.Refused) :
    ∃ r, earlyAnswer db source o = some r := by
  have hopen : o.status ≠ .completed := by
    rcases h with h | h <;> simp [h]
  unfold earlyAnswer
  split
  · exact ⟨_, rfl⟩
  · simp [canResendOrder, isPartialRetry, provisioningBlockReason, hopen, h]

end Approval

end Qasedak.Orders

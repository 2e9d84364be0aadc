import Qasedak.Foundation.Ranking
import Qasedak.Revenue.Guards
import Mathlib.Data.Prod.Lex

/-! `run_retention_scan` of `store/revenue_engine/scheduler.py`: the events that one scan of the
database hands to the retention engine, and its summary of what came of them. -/

namespace Qasedak.Revenue

open Foundation Store

/-! ## Tables -/

/-- A `BotUser` with the fields of its `bot_config`. -/
structure ScannedBotUser where
  pk : ℕ
  customer : Option ℕ := none
  isActive : Bool := true
  chatId : String
  lastSeenAt : Instant
  store : Option ℕ := none
  configIsActive : Bool := true
  isTelegram : Bool := true
  botToken : String
  deriving DecidableEq, Repr

/-- What the scan reads. -/
structure ScanDb where
  botUsers : List ScannedBotUser := []
  orders : Orders
  clients : Clients

/-- `order__customer`. -/
def ScanDb.owner (db : ScanDb) (c : VPNClient) : Option ℕ :=
  (c.order.bind db.orders.get?).bind Order.customer

/-- `order__store`. -/
def ScanDb.orderStore (db : ScanDb) (c : VPNClient) : Option ℕ :=
  (c.order.bind db.orders.get?).bind Order.store

/-! ## Events -/

inductive RetentionEventType where
  | userInactive24h
  | userInactive72h
  | userExpiredNoRenew
  deriving DecidableEq, Repr

/-- Whom an event is about. -/
inductive RetentionUser where
  | botUser (pk : ℕ)
  | customer (pk : ℕ)
  deriving DecidableEq, Repr

/-- An event with the context that the scan gives it. -/
structure RetentionEvent where
  eventType : RetentionEventType
  user : RetentionUser
  botUser : Option ℕ
  customer : Option ℕ
  store : Option ℕ
  vpnClient : Option ℕ := none
  lastActiveAt : Option Instant := none
  expiryTime : Option Instant := none
  lastPurchase : Option ℕ
  subscriptionActive : Bool
  revenueDryRun : Bool
  deriving DecidableEq, Repr

/-- What `emit_event` returns. -/
structure EmitResult where
  handled : Bool := false
  sent : Bool := false
  dryRun : Bool := false
  failed : Bool := false
  skipped : Bool := false
  reason : String := ""
  deriving DecidableEq, Repr

/-- The retention engine; none where it raises. -/
abbrev Engine := RetentionEvent → Option EmitResult

/-! ## Summary -/

structure EngineCounts where
  sent : ℕ := 0
  dryRun : ℕ := 0
  suppressed : ℕ := 0
  skipped : ℕ := 0
  failed : ℕ := 0
  deriving DecidableEq, Repr

/-- `_revenue_summary`, with the counts under `per_engine["retention"]` once there are any. -/
structure RevenueSummary extends EngineCounts where
  scanned : ℕ := 0
  candidates : ℕ := 0
  events : ℕ := 0
  handled : ℕ := 0
  skippedNoTarget : ℕ := 0
  errors : ℕ := 0
  convertedRecent : ℕ := 0
  perEngine : Option EngineCounts := none
  deriving DecidableEq, Repr

/-- The reasons that count as suppressed. -/
def suppressedReasons : List String :=
  ["revenue_engine_disabled", "engine_disabled", "quiet_hours", "daily_user_cap",
    "weekly_user_cap", "daily_total_cap", "cooldown_active", "ai_confidence_below_threshold",
    "upsell_active", "renewal_active"]

/-- The counts after a result. -/
def EngineCounts.record (n : EngineCounts) (r : EmitResult) (skips : ℕ) : EngineCounts :=
  if r.sent then { n with sent := n.sent + 1 }
  else if r.dryRun then { n with dryRun := n.dryRun + 1 }
  else if r.failed then { n with failed := n.failed + 1 }
  else if r.skipped then
    if r.reason ∈ suppressedReasons then
      { n with suppressed := n.suppressed + 1, skipped := n.skipped + skips }
    else { n with skipped := n.skipped + 1 }
  else n

/-- `_record_engine_result`. A suppressed message counts among the skipped in the summary, and not
among those of the engine. -/
def recordEngineResult (s : RevenueSummary) (r : EmitResult) : RevenueSummary :=
  { s with
    toEngineCounts := s.toEngineCounts.record r 1
    handled := s.handled + if r.handled then 1 else 0
    skippedNoTarget := s.skippedNoTarget +
      if ¬ r.sent ∧ ¬ r.dryRun ∧ ¬ r.failed ∧ r.skipped ∧ r.reason = "no_personal_telegram_target"
      then 1 else 0
    perEngine := some ((s.perEngine.getD {}).record r 0) }

/-- A scan on its way: the summary, and the events that were emitted. -/
structure Scan where
  summary : RevenueSummary := {}
  emitted : List RetentionEvent := []

/-- `_emit_retention`. -/
def Scan.emit (engine : Engine) (s : Scan) (e : RetentionEvent) : Scan where
  summary :=
    let counted := { s.summary with events := s.summary.events + 1 }
    match engine e with
    | none => { counted with errors := counted.errors + 1 }
    | some r => recordEngineResult counted r
  emitted := s.emitted ++ [e]

@[simp] theorem Scan.emit_emitted (engine : Engine) (s : Scan) (e : RetentionEvent) :
    (s.emit engine e).emitted = s.emitted ++ [e] := rfl

/-! ## Customers -/

/-- `status__in=[CREATED, INACTIVE, ACTIVE]`. -/
def LiveStatus (s : ClientStatus) : Prop := s = .created ∨ s = .inactive ∨ s = .active

instance (s : ClientStatus) : Decidable (LiveStatus s) := inferInstanceAs (Decidable (_ ∨ _ ∨ _))

/-- A client that `_active_subscription_exists` finds. -/
def Running (now : Instant) (c : VPNClient) : Prop :=
  (∃ t ∈ c.expiresAt, now < t) ∧ LiveStatus c.status

instance (now : Instant) (c : VPNClient) : Decidable (Running now c) :=
  inferInstanceAs (Decidable (_ ∧ _))

/-- `_active_subscription_exists`. -/
def activeSubscriptionExists (db : ScanDb) (now : Instant) (customer : ℕ) : Bool :=
  db.clients.rows.any fun c => db.owner c = some customer ∧ Running now c

/-- `_renewed_after`. -/
def renewedAfter (db : ScanDb) (customer : ℕ) (expiryTime : Instant) : Bool :=
  db.orders.rows.any fun o =>
    o.customer = some customer ∧ o.status = .completed ∧ expiryTime < o.createdAt

/-- `_last_purchase_for_customer`. -/
def lastPurchaseForCustomer (db : ScanDb) (customer : Option ℕ) : Option ℕ :=
  (((db.orders.rows.filter fun o =>
      customer ≠ none ∧ o.customer = customer ∧ o.status = .completed).insertionSort fun o p =>
    toLex (-o.createdAt, -(o.pk : ℤ)) ≤ toLex (-p.createdAt, -(p.pk : ℤ))).map Order.pk).head?

/-- `_retention_bot_users`. -/
def retentionBotUsers (db : ScanDb) : List ScannedBotUser :=
  (db.botUsers.filter fun u =>
    u.isActive && u.configIsActive && u.isTelegram && u.chatId ≠ "" && u.botToken ≠ "").insertionSort
      fun u v => u.pk ≤ v.pk

/-! ## The scan -/

/-- The arguments of a scan; zero is as good as none. -/
structure ScanRequest where
  dryRun : Bool := false
  customerId : Option ℕ := none
  limit : Option ℕ := none
  deriving DecidableEq, Repr

/-- `if customer_id:`. -/
def ScanRequest.Selects (req : ScanRequest) (customer : Option ℕ) : Prop :=
  ∀ k ∈ req.customerId, k ≠ 0 → customer = some k

instance (req : ScanRequest) (customer : Option ℕ) : Decidable (req.Selects customer) :=
  inferInstanceAs (Decidable (∀ k ∈ req.customerId, _))

/-- `if limit:`. -/
def ScanRequest.slice {α : Type*} (req : ScanRequest) (xs : List α) : List α :=
  match req.limit with
  | none | some 0 => xs
  | some n => xs.take n

/-- No customer is named, and no number of rows. -/
def ScanRequest.Unlimited (req : ScanRequest) : Prop :=
  (∀ k ∈ req.customerId, k = 0) ∧ ∀ n ∈ req.limit, n = 0

section Loops

variable (engine : Engine) (db : ScanDb) (now : Instant) (req : ScanRequest)

/-- The event of an inactive bot user. -/
def inactivityEvent (u : ScannedBotUser) : Option RetentionEvent :=
  let event (type : RetentionEventType) : RetentionEvent :=
    { eventType := type
      user := .botUser u.pk
      botUser := some u.pk
      customer := u.customer
      store := u.store
      lastActiveAt := some u.lastSeenAt
      lastPurchase := lastPurchaseForCustomer db u.customer
      subscriptionActive := u.customer.any (activeSubscriptionExists db now)
      revenueDryRun := req.dryRun }
  if u.lastSeenAt ≤ now - hours 72 then some (event .userInactive72h)
  else if u.lastSeenAt ≤ now - hours 24 then some (event .userInactive24h)
  else none

/-- The loop over the bot users. -/
def scanBotUsers (s : Scan) : List ScannedBotUser → Scan
  | [] => s
  | u :: us =>
      let s := { s with summary.scanned := s.summary.scanned + 1 }
      match inactivityEvent db now req u with
      | none => scanBotUsers s us
      | some e => scanBotUsers (s.emit engine e) us

/-- A client that `expired_clients` selects: its date has passed. -/
def Passed (now : Instant) (c : VPNClient) : Prop :=
  (∃ t ∈ c.expiresAt, t < now) ∧ c.status ≠ .deleted

instance (now : Instant) (c : VPNClient) : Decidable (Passed now c) :=
  inferInstanceAs (Decidable (_ ∧ _))

/-- `order_by("order__customer_id", "-expires_at", "-pk")`. -/
def expiredOrder (c : VPNClient) : ℕ ×ₗ ℤ ×ₗ ℤ :=
  toLex ((db.owner c).getD 0, toLex (-c.expiresAt.getD 0, -(c.pk : ℤ)))

/-- `expired_clients`. -/
def expiredClients : List VPNClient :=
  req.slice
    ((db.clients.rows.filter fun c =>
        (db.owner c).isSome ∧ Passed now c ∧ req.Selects (db.owner c)).insertionSort fun c d =>
      expiredOrder db c ≤ expiredOrder db d)

/-- The event of a customer whose service has expired. -/
def winBackEvent (customer : ℕ) (c : VPNClient) : RetentionEvent :=
  let botUser := ((retentionBotUsers db).find? fun u => u.customer = some customer).map
    ScannedBotUser.pk
  { eventType := .userExpiredNoRenew
    user := botUser.elim (.customer customer) .botUser
    botUser := botUser
    customer := some customer
    store := c.store.or (db.orderStore c)
    vpnClient := some c.pk
    expiryTime := c.expiresAt
    lastPurchase := lastPurchaseForCustomer db (some customer)
    subscriptionActive := false
    revenueDryRun := req.dryRun }

/-- The loop over the expired clients, with the customers it has seen. -/
def scanExpiredClients (s : Scan) (seen : List ℕ) : List VPNClient → Scan
  | [] => s
  | c :: cs =>
      match db.owner c with
      | none => scanExpiredClients s seen cs
      | some customer =>
          if customer ∈ seen then scanExpiredClients s seen cs
          else if activeSubscriptionExists db now customer ∨
              ∃ t ∈ c.expiresAt, renewedAfter db customer t then
            scanExpiredClients s (customer :: seen) cs
          else scanExpiredClients (s.emit engine (winBackEvent db req customer c))
            (customer :: seen) cs

/-- `run_retention_scan`. -/
def runRetentionScan : Scan :=
  scanExpiredClients engine db now req
    (scanBotUsers engine db now req {}
      (req.slice ((retentionBotUsers db).filter fun u => req.Selects u.customer)))
    [] (expiredClients db now req)

end Loops

/-- The customers of the win-back events, in order. -/
def Scan.winBacks (s : Scan) : List ℕ :=
  s.emitted.filterMap fun e => if e.eventType = .userExpiredNoRenew then e.customer else none

end Qasedak.Revenue

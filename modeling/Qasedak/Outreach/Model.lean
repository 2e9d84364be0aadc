import Qasedak.CustomerActivity.Recording
import Qasedak.Foundation.Serial
import Qasedak.Revenue.Guards

/-! `customer_activity/outreach.py`: which message a purchase is due, and what keeps one that is due
from being sent. -/

namespace Qasedak.Outreach

open Foundation Store CustomerActivity

/-- The keys of `PRIORITY`. -/
inductive EventKind where
  | inactive48h
  | ended
  | expiry24h
  | volume5
  | expiry72h
  | volume20
  deriving DecidableEq, Repr

/-- `PRIORITY`. -/
def EventKind.priority : EventKind → ℕ
  | .inactive48h => 100
  | .ended => 90
  | .expiry24h => 80
  | .volume5 => 70
  | .expiry72h => 40
  | .volume20 => 30

/-- `OutreachEvent.Status`. -/
inductive EventStatus where
  | preview
  | ready
  | sending
  | sent
  | uncertain
  | failed
  | cancelled
  deriving DecidableEq, Repr

/-- `PENDING`. -/
def EventStatus.Pending (status : EventStatus) : Prop :=
  status = .preview ∨ status = .ready ∨ status = .cancelled

/-- `RESERVED`. -/
def EventStatus.Reserved (status : EventStatus) : Prop :=
  status = .sending ∨ status = .sent ∨ status = .uncertain

instance (status : EventStatus) : Decidable status.Pending :=
  inferInstanceAs (Decidable (_ ∨ _))

instance (status : EventStatus) : Decidable status.Reserved :=
  inferInstanceAs (Decidable (_ ∨ _))

/-- `OutreachSettings.Mode`. -/
inductive OutreachMode where
  | off
  | preview
  | live
  deriving DecidableEq, Repr

structure OutreachSettings where
  mode : OutreachMode := .preview
  inactivityEnabled : Bool := true
  renewalEnabled : Bool := true
  dailyLimit : ℕ := 50
  startHour : ℕ := 9
  endHour : ℕ := 21
  deriving DecidableEq, Repr

/-- `OutreachEvent`. -/
structure OutreachEvent where
  pk : ℕ
  order : ℕ
  cycle : ℕ
  kind : EventKind
  status : EventStatus := .preview
  body : String := ""
  reason : String := ""
  botUser : Option ℕ := none
  createdAt : Instant
  claimedAt : Option Instant := none
  sentAt : Option Instant := none
  messageId : String := ""
  convertedOrder : Option ℕ := none
  deriving DecidableEq, Repr

/-- What the unique constraint of the events is on. -/
structure EventKey where
  order : ℕ
  cycle : ℕ
  kind : EventKind
  deriving DecidableEq, Repr

def OutreachEvent.key (event : OutreachEvent) : EventKey :=
  ⟨event.order, event.cycle, event.kind⟩

abbrev OutreachEvents := Serial OutreachEvent.pk

/-! ## Rows of other tables -/

/-- `SupportConversation.Status`. -/
inductive ConversationStatus where
  | open
  | waitingAdmin
  | answered
  | closed
  deriving DecidableEq, Repr

structure SupportConversation where
  store : Option ℕ
  customer : Option ℕ
  status : ConversationStatus
  deriving DecidableEq, Repr

/-- The row of `RevenueOfferLog`, as far as it limits the outreach. -/
structure OfferLog where
  store : Option ℕ
  customer : Option ℕ
  status : Revenue.OfferStatus
  eventType : String
  createdAt : Instant
  deriving DecidableEq, Repr

/-- A `BotUser` with the fields of its `bot_config`. -/
structure BotUser where
  pk : ℕ
  customer : Option ℕ
  isActive : Bool := true
  store : Option ℕ
  configIsActive : Bool := true
  isTelegram : Bool := true
  hasBotToken : Bool := true
  chatId : String
  providerUserId : String
  deriving DecidableEq, Repr

/-- What is read of a cup of a purchase, with the times at which its items and their links were
last changed. -/
structure CupRow where
  disabled : Bool := false
  expiresAt : Option Instant := none
  updatedAt : Instant
  itemsUpdatedAt : List Instant := []
  deriving DecidableEq, Repr

/-- An order with what hangs on it. -/
structure Purchase where
  order : Order
  updatedAt : Instant
  storeIsActive : Bool := true
  cups : List CupRow := []
  clientsUpdatedAt : List Instant := []
  deriving DecidableEq, Repr

/-- What does not change: whom each order is of, and the most messages that each store's settings
have ever allowed a day; with the clock of Tehran and the texts of the messages. -/
structure Shop where
  customer : ℕ → Option ℕ
  store : ℕ → ℕ
  dailyLimit : ℕ → ℕ
  tehranHour : Instant → ℕ
  messageBody : Purchase → PurchaseActivity → EventKind → Instant → String

/-- What a step finds in the other tables, and the time. -/
structure Surroundings (shop : Shop) where
  now : Instant
  stores : List ℕ
  settings : ℕ → OutreachSettings
  purchase : ℕ → Purchase
  activity : ℕ → Option PurchaseActivity
  activeOrders : ℕ → List ℕ
  orders : List Order
  clients : List VPNClient
  muted : ℕ → ℕ → Bool
  conversations : List SupportConversation
  offerLogs : List OfferLog
  /-- In the order of `-last_seen_at`, `pk`. -/
  botUsers : List BotUser
  keepsCustomer : ∀ pk, (purchase pk).order.customer = shop.customer pk
  keepsStore : ∀ pk, (purchase pk).order.store = some (shop.store pk)
  keepsLimit : ∀ store, (settings store).dailyLimit ≤ shop.dailyLimit store

/-! ## What is due -/

section Due

variable {shop : Shop} (e : Surroundings shop)

/-- `purchase_clients`. -/
def purchaseClients (o : Order) : List VPNClient :=
  e.clients.filter fun c =>
    c.store = o.store &&
      (c.order = some o.pk || o.metadata.renewalClientPk = some c.pk &&
        e.orders.any fun other => c.order = some other.pk && other.customer = o.customer)

/-- An order that renews a client of the purchase. -/
def IsRenewal (o : Order) (c : VPNClient) (renewal : Order) : Prop :=
  renewal.metadata.renewalClientPk = some c.pk ∧ renewal.store = o.store ∧
    renewal.customer = o.customer ∧ renewal.pk ≠ o.pk

instance (o : Order) (c : VPNClient) (renewal : Order) : Decidable (IsRenewal o c renewal) :=
  inferInstanceAs (Decidable (_ ∧ _))

/-- A renewal that was fulfilled. -/
def IsFulfilledRenewal (o : Order) (c : VPNClient) (renewal : Order) : Prop :=
  IsRenewal o c renewal ∧ Fulfilled renewal ∧ renewal.verificationStatus = .verified ∧
    o.createdAt < renewal.createdAt

instance (o : Order) (c : VPNClient) (renewal : Order) :
    Decidable (IsFulfilledRenewal o c renewal) :=
  inferInstanceAs (Decidable (_ ∧ _))

inductive RenewalState where
  | none
  | renewed (renewal : Order)
  | pending
  deriving DecidableEq, Repr

/-- What `renewal_state` finds for one client. -/
def clientRenewalState (o : Order) (now : Instant) (c : VPNClient) : Option RenewalState :=
  let renewals := e.orders.filter fun renewal => IsFulfilledRenewal o c renewal
  let latest := renewals.foldl
    (fun best r => if best.any fun b => r.createdAt ≤ b.createdAt then best else some r) none
  match latest with
  | some renewal => some (.renewed renewal)
  | none =>
      if e.orders.any fun renewal => IsRenewal o c renewal && renewal.status = .pendingVerification &&
          renewal.paymentSubmittedAt.any (now - Revenue.days 7 ≤ ·) then
        some .pending
      else none

/-- `renewal_state`. -/
def renewalState (o : Order) (now : Instant) : RenewalState :=
  ((purchaseClients e o).findSome? (clientRenewalState e o now)).getD .none

/-- A client of the purchase was renewed by a later order. -/
def Renewed (o : Order) : Prop :=
  ∃ c ∈ purchaseClients e o, ∃ renewal ∈ e.orders, IsFulfilledRenewal o c renewal

/-- Something of the cup is over, or was changed after the observation. -/
def CupRow.changed (cup : CupRow) (observedAt now : Instant) : Bool :=
  cup.disabled || cup.expiresAt.any (· ≤ now) || observedAt < cup.updatedAt ||
    cup.itemsUpdatedAt.any (observedAt < ·)

/-- The kind that the counters of a valid purchase give. -/
def kindOfCounters (counters : Dict Counter) (now : Instant) : Option EventKind :=
  let values := counters.values
  let expiry := values.filterMap fun v => v.expiry.map (·.instant - now)
  let expiry := expiry.filter (0 < ·)
  let quotas := values.filterMap fun v => v.quota.map fun quota => (quota, max 0 (quota - v.used))
  let quotas := quotas.filter (0 < ·.1)
  if values = [] ∨ values.any fun v => now - v.capturedAt < 0 ∨ maxGap < now - v.capturedAt then none
  else if expiry.any (· ≤ Revenue.hours 24) then some .expiry24h
  else if quotas.any fun q => 20 * q.2 ≤ q.1 then some .volume5
  else if expiry.any (· ≤ Revenue.hours 72) then some .expiry72h
  else if quotas.any fun q => 5 * q.2 ≤ q.1 then some .volume20
  else none

/-- `candidate_kind`. -/
def candidateKind (pk : ℕ) (a : PurchaseActivity) (config : OutreachSettings) (now : Instant) :
    Option EventKind :=
  let p := e.purchase pk
  let o := p.order
  match a.observedAt with
  | none => none
  | some observedAt =>
      if o.customer = none ∨ p.storeIsActive = false ∨ ¬ Fulfilled o ∨
          o.verificationStatus ≠ .verified ∨ a.reason ≠ "ok" then none
      else if maxGap < now - observedAt ∨ now < observedAt then none
      else if observedAt < p.updatedAt then none
      else if p.cups.any (·.changed observedAt now) then none
      else if p.clientsUpdatedAt.any (observedAt < ·) then none
      else if renewalState e o now ≠ .none then none
      else if config.inactivityEnabled ∧ a.entitlement = .valid ∧ activityStatus a now = .inactive then
        some .inactive48h
      else if config.renewalEnabled = false then none
      else if a.entitlement = .expired ∨ a.entitlement = .exhausted ∨ a.entitlement = .ended then
        if a.endedAt.any fun t => now - Revenue.hours 48 ≤ t ∧ t ≤ now then some .ended else none
      else if a.entitlement ≠ .valid then none
      else kindOfCounters a.counters now

end Due

/-! ## What keeps it from being sent -/

section Suppression

variable {shop : Shop} (e : Surroundings shop)

/-- `personal_target`. -/
def personalTarget (o : Order) : Option BotUser :=
  e.botUsers.find? fun u =>
    u.customer = o.customer && u.isActive && u.store = o.store && u.configIsActive &&
      u.isTelegram && u.hasBotToken && u.chatId.toList.all Char.isDigit &&
      u.chatId.toList.any (· ≠ '0') && u.chatId = u.providerUserId

/-- The other events of RESERVED that were claimed at a time or later, of some of the orders. -/
def reservedSince (rows : List OutreachEvent) (event : ℕ) (p : ℕ → Prop) [DecidablePred p]
    (since : Instant) : ℕ :=
  rows.countP fun ev => ev.status.Reserved ∧ ev.pk ≠ event ∧ p ev.order ∧
    ev.claimedAt.any (since ≤ ·)

/-- The logs of the revenue engine that were made at a time or later, with some more to say. -/
def offersSince (logs : List OfferLog) (p : OfferLog → Prop) [DecidablePred p] (since : Instant) :
    ℕ :=
  logs.countP fun log => log.status.Countable ∧ p log ∧ since ≤ log.createdAt

/-- A conversation that waits for the shop. -/
def HasOpenTicket (store : ℕ) (customer : Option ℕ) : Prop :=
  ∃ c ∈ e.conversations, c.store = some store ∧ c.customer = customer ∧
    (c.status = .open ∨ c.status = .waitingAdmin)

instance (store : ℕ) (customer : Option ℕ) : Decidable (HasOpenTicket e store customer) :=
  inferInstanceAs (Decidable (∃ c ∈ e.conversations, _))

/-- The customer has turned the messages of the store off. -/
def IsMuted (store : ℕ) (customer : Option ℕ) : Prop := customer.any (e.muted store)

instance (store : ℕ) (customer : Option ℕ) : Decidable (IsMuted e store customer) :=
  inferInstanceAs (Decidable (_ = true))

/-- `suppression` of an event of an order. -/
def suppression (rows : List OutreachEvent) (logs : List OfferLog) (order event : ℕ)
    (config : OutreachSettings) (now : Instant) : String :=
  let customer := shop.customer order
  let store := shop.store order
  let ofCustomer (pk : ℕ) : Prop := shop.customer pk = customer
  let ofStore (pk : ℕ) : Prop := shop.store pk = store
  if config.mode = .off then "disabled"
  else if ¬ (config.startHour ≤ shop.tehranHour now ∧ shop.tehranHour now < config.endHour) then
    "quiet_hours"
  else if IsMuted e store customer then "muted"
  else if HasOpenTicket e store customer then "open_support"
  else if 0 < reservedSince rows event ofCustomer (now - Revenue.hours 24) ∨
      0 < offersSince logs (fun log => log.customer = customer) (now - Revenue.hours 24) ∨
      3 ≤ reservedSince rows event ofCustomer (now - Revenue.days 7) +
        offersSince logs (fun log => log.customer = customer ∧ log.eventType ≠ "purchase_journey")
          (now - Revenue.days 7) then
    "customer_cap"
  else if config.dailyLimit ≤ reservedSince rows event ofStore (now - Revenue.days 1) +
      offersSince logs (fun log => log.store = some store ∧ log.eventType ≠ "purchase_journey")
        (now - Revenue.days 1) then
    "store_cap"
  else if personalTarget e (e.purchase order).order = none then "no_target"
  else ""

end Suppression

end Qasedak.Outreach

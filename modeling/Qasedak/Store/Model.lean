import Qasedak.Foundation.Table
import Mathlib.Data.Int.Notation

/-! The rows of the shop that its payment and provisioning code reads and writes. -/

namespace Qasedak.Store

open Foundation

/-- A point in time, in microseconds since the epoch. -/
abbrev Instant := ℤ

/-- The order of the integers that computes. -/
instance instantPreorder : Preorder Instant := Int.instLinearOrder.toPreorder

def minutes (n : ℤ) : Instant := n * 60000000

/-! ## Choices -/

/-- `Order.Status`, with the value `"pending"` that older rows still carry. -/
inductive OrderStatus where
  | pending
  | pendingPayment
  | pendingVerification
  | confirmed
  | completed
  | rejected
  | cancelled
  deriving DecidableEq, Repr

inductive VerificationStatus where
  | pending
  | verified
  | rejected
  deriving DecidableEq, Repr

inductive ProvisioningStatus where
  | notRequired
  | pending
  | provisioning
  | provisioned
  | failed
  deriving DecidableEq, Repr

inductive PaymentMethod where
  | manualCard
  | gateway
  | adminFree
  deriving DecidableEq, Repr

/-- `Plan.Currency`. -/
inductive Currency where
  | toman
  | irr
  | usd
  deriving DecidableEq, Repr

/-- `VPNClient.Status`. -/
inductive ClientStatus where
  | created
  | inactive
  | active
  | suspended
  | expired
  | deleted
  | error
  deriving DecidableEq, Repr

/-- `OrderAutomation.ReviewStatus`; `none` is the empty default. -/
inductive ReviewStatus where
  | none
  | pending
  | verified
  | cancelling
  | cancelled
  | cancelFailed
  deriving DecidableEq, Repr

/-- `Panel.Family`. -/
inductive PanelFamily where
  | xui
  | marzban
  | pasarguard
  | unknown
  deriving DecidableEq, Repr

inductive CapabilityProfile where
  | legacySingleNode
  | modernSingleNode
  | modernMultiNode
  | pasarguardGroups
  | unknownSafe
  deriving DecidableEq, Repr

/-- The strategies of `provisioning_services`. -/
inductive Strategy where
  | legacyPrecreateInactive
  | deferredCreateEnabled
  | directCreateEnabled
  | renewExistingClient
  deriving DecidableEq, Repr

/-- `REJECTED` and `CANCELLED`: the order was refused. -/
def OrderStatus.Refused (s : OrderStatus) : Prop :=
  s = .rejected ∨ s = .cancelled

instance (s : OrderStatus) : Decidable s.Refused :=
  inferInstanceAs (Decidable (_ ∨ _))

/-- The review statuses under which nothing is provisioned any more. -/
def ReviewStatus.Cancelling (s : ReviewStatus) : Prop :=
  s = .cancelling ∨ s = .cancelFailed ∨ s = .cancelled

instance (s : ReviewStatus) : Decidable s.Cancelling :=
  inferInstanceAs (Decidable (_ ∨ _ ∨ _))

/-! ## Customers, stores, panels, inbounds and plans -/

structure Customer where
  pk : ℕ
  publicId : String := ""
  displayName : String := ""
  username : String := ""
  phoneNumber : String := ""
  referralCode : String := ""
  referredBy : Option ℕ := none
  referralCodeUsed : String := ""
  deriving DecidableEq, Repr

/-- The fields of a store that order automation and the referral programme read. -/
structure StoreRow where
  pk : ℕ
  name : String := ""
  isActive : Bool := true
  orderAutoApproveEnabled : Bool := false
  orderAutoApproveEnabledAt : Option Instant := none
  orderReviewRemindersEnabled : Bool := false
  referralSystemEnabled : Bool := true
  /-- In thousandths of a gigabyte. -/
  referralRewardGb : ℕ := 2000
  referralRewardDurationDays : ℕ := 30
  referralMinOrderRequired : Bool := true
  deriving DecidableEq, Repr

structure Panel where
  pk : ℕ
  store : Option ℕ := none
  family : PanelFamily := .xui
  capabilityProfile : CapabilityProfile := .legacySingleNode
  isActive : Bool := true
  deriving DecidableEq, Repr

structure Inbound where
  pk : ℕ
  panel : ℕ
  /-- The id of the inbound on its panel. -/
  inboundId : ℕ
  xuiNodeId : String := ""
  xuiRemoteKey : String := ""
  /-- `xui_source` is `synchronized_node`. -/
  isSynchronizedNode : Bool := false
  isActive : Bool := true
  availableForNewOrders : Bool := true
  /-- `security` is `REALITY`. -/
  isReality : Bool := false
  pbk : String := ""
  legacyNote : String := ""
  healthMonitorEnabled : Bool := true
  currentUsers : ℕ := 0
  maxClients : Option ℕ := none
  deriving DecidableEq, Repr

structure Plan where
  pk : ℕ
  store : Option ℕ := none
  price : ℕ
  currency : Currency := .toman
  /-- `bytes_from_gb(volume_gb)`; zero is unlimited. -/
  trafficLimitBytes : ℕ
  durationDays : ℕ
  deviceLimit : ℕ
  deriving DecidableEq, Repr

/-! ## Orders -/

/-- `metadata["renewal_recovery_attempt"]["status"]`. -/
inductive AttemptStatus where
  | running
  | finished
  deriving DecidableEq, Repr

inductive ResetStatus where
  | pending
  | started
  | done
  deriving DecidableEq, Repr

/-- `metadata["renewal_intent"]`, written before the panel is asked for a renewal.
Expiries are in milliseconds, as the panel keeps them. -/
structure RenewalIntent where
  clientPk : ℕ
  inboundPk : ℕ
  uuid : String
  previousExpiry : ℤ
  targetExpiry : ℤ
  totalBytes : ℕ
  limitIp : ℕ
  durationDays : ℕ
  resetStatus : ResetStatus
  deriving DecidableEq, Repr

/-- `provisioning_scope(inbound)`; the fields that identify the inbound. -/
structure ProvisioningScope where
  panelId : ℕ
  inboundPk : ℕ
  xuiInboundId : ℕ
  nodeId : String
  deriving DecidableEq, Repr

/-- `RuleFulfillmentResult`, as it is kept in the metadata. -/
structure RuleResult where
  rule : ℕ
  required : Bool := true
  success : Bool := false
  createdLinkCount : ℕ := 0
  errors : List String := []
  deriving DecidableEq, Repr

/-- A configuration link for a customer; its metadata name the delivery sources and the
inventory allocation that it comes from. -/
structure DeliveredLink where
  rawLink : String
  sources : List ℕ := []
  allocation : Option ℕ := none
  deriving DecidableEq, Repr

/-- The keys of `Order.metadata` that the modelled code reads. -/
structure OrderMetadata where
  renewalClientPk : Option ℕ := none
  renewalRecoveryAttempt : Option AttemptStatus := none
  renewalIntent : Option RenewalIntent := none
  provisioningEmailPrefix : Option String := none
  provisioningScope : Option ProvisioningScope := none
  provisioningScopes : List ProvisioningScope := []
  multiInboundBundle : Bool := false
  panelProvisioningDeferred : Bool := false
  adminInventoryAssetId : Option ℕ := none
  /-- `bot.username`. -/
  botUsername : String := ""
  deferredPanelUsername : String := ""
  adminDirectPurchase : Bool := false
  freeGrant : Bool := false
  suppressNewOrderNotification : Bool := false
  /-- `cup_fulfillment_recipe.status == "partial"`. -/
  cupFulfillmentPartial : Bool := false
  /-- `plan_delivery_v2.failed_source_result_count` and `.config_link_count`. -/
  failedSourceResultCount : ℕ := 0
  configLinkCount : ℕ := 0
  directDeliveryLinks : List DeliveredLink := []
  /-- `cup_fulfillment_recipe.rule_results` and `.created_link_count`. -/
  ruleResults : List RuleResult := []
  createdLinkCount : ℕ := 0
  deriving DecidableEq, Repr

structure Order where
  pk : ℕ
  publicId : String := ""
  orderTrackingCode : String := ""
  customer : Option ℕ := none
  store : Option ℕ := none
  plan : ℕ
  operator : Option ℕ := none
  quantity : ℕ := 1
  originalAmount : ℕ := 0
  discountAmount : ℕ := 0
  discountCode : Option ℕ := none
  amount : ℕ := 0
  currency : Currency := .toman
  createdAt : Instant := 0
  paymentMethod : PaymentMethod := .manualCard
  paymentSubmittedAt : Option Instant := none
  /-- One of the receipt fields is filled in: an image, a bank tracking code, a text or
  a file in the metadata. -/
  hasReceipt : Bool := false
  senderCardName : String := ""
  senderCardLast4 : String := ""
  /-- The day and the minute of the transfer, by the clock of Tehran. -/
  paymentDate : Option ℤ := none
  paymentTime : Option ℕ := none
  bankTrackingCode : String := ""
  status : OrderStatus := .pendingPayment
  isPaid : Bool := false
  verificationStatus : VerificationStatus := .pending
  verifiedBy : Option ℕ := none
  verifiedAt : Option Instant := none
  provisioningStatus : ProvisioningStatus := .notRequired
  provisioningAttempts : ℕ := 0
  lastProvisioningError : String := ""
  provisionedAt : Option Instant := none
  inbound : Option ℕ := none
  username : String := "admin"
  uuid : Option String := none
  subLink : Option String := none
  directLink : Option String := none
  metadata : OrderMetadata := {}
  deriving DecidableEq, Repr

namespace Order

/-- `Order.mark_payment_verified`. -/
def markPaymentVerified (o : Order) (user : Option ℕ) (now : Instant) : Order :=
  { o with
    isPaid := true
    verificationStatus := .verified
    verifiedBy := user
    verifiedAt := some now
    status := .completed }

/-- `Order.mark_payment_rejected`; the reason text is not modelled. -/
def markPaymentRejected (o : Order) (user : Option ℕ) (now : Instant) : Order :=
  { o with
    verificationStatus := .rejected
    verifiedBy := user
    verifiedAt := some now
    status := .rejected }

/-- What `Order.save` changes on its own: the old pending value becomes
`PENDING_VERIFICATION`, and a manual payment gets its submission time. -/
def save (o : Order) (now : Instant) : Order :=
  let status := if o.status = .pending then .pendingVerification else o.status
  { o with
    status := status
    paymentSubmittedAt :=
      if o.paymentMethod = .manualCard ∧
          (o.isPaid ∨ status = .pendingVerification ∨ o.paymentSubmittedAt.isSome) then
        some (o.paymentSubmittedAt.getD now)
      else o.paymentSubmittedAt }

@[simp] theorem save_pk (o : Order) (now : Instant) : (o.save now).pk = o.pk := rfl

@[simp] theorem save_metadata (o : Order) (now : Instant) :
    (o.save now).metadata = o.metadata := rfl

@[simp] theorem save_verificationStatus (o : Order) (now : Instant) :
    (o.save now).verificationStatus = o.verificationStatus := rfl

@[simp] theorem save_provisioningStatus (o : Order) (now : Instant) :
    (o.save now).provisioningStatus = o.provisioningStatus := rfl

theorem save_status (o : Order) (now : Instant) :
    (o.save now).status = if o.status = .pending then .pendingVerification else o.status := rfl

theorem save_status_of_ne {o : Order} (h : o.status ≠ .pending) (now : Instant) :
    (o.save now).status = o.status := by
  rw [save_status, if_neg h]

@[simp] theorem markPaymentVerified_pk (o : Order) (user : Option ℕ) (now : Instant) :
    (o.markPaymentVerified user now).pk = o.pk := rfl

@[simp] theorem markPaymentRejected_pk (o : Order) (user : Option ℕ) (now : Instant) :
    (o.markPaymentRejected user now).pk = o.pk := rfl

end Order

/-- `OrderAutomation`, at most one row for each order. -/
structure OrderAutomation where
  order : ℕ
  autoApprovedAt : Option Instant := none
  reviewStatus : ReviewStatus := .none
  lastError : String := ""
  revokedClientIds : List ℕ := []
  reminderStage : ℕ := 0
  lastRemindedAt : Option Instant := none
  deriving DecidableEq, Repr

/-! ## Delivered services -/

/-- `VPNClient.RemoteCheckStatus`. -/
inductive RemoteCheckStatus where
  | notChecked
  | remoteActive
  | remoteDisabled
  | remoteMissing
  | panelUnreachable
  | inboundMissing
  | ambiguous
  | unknown
  deriving DecidableEq, Repr

/-- `safe_remote_scope(vpn_client)`. -/
structure RemoteScope where
  panelId : ℕ
  inboundPk : ℕ
  inboundId : ℕ
  nodeId : String
  remoteScopeKey : String
  deriving DecidableEq, Repr

/-- The fields `last_remote_check_*` of a client. -/
structure RemoteCheck where
  status : RemoteCheckStatus := .notChecked
  checkedAt : Option Instant := none
  error : String := ""
  scope : Option RemoteScope := none
  batchId : String := ""
  deriving DecidableEq, Repr

structure VPNClient where
  pk : ℕ
  store : Option ℕ := none
  order : Option ℕ
  plan : Option ℕ
  inbound : Option ℕ
  username : String
  xuiEmail : String := ""
  uuid : Option String := none
  subId : String := ""
  subLink : String := ""
  directLink : String := ""
  status : ClientStatus := .created
  trafficLimitBytes : ℕ := 0
  usedTrafficBytes : ℕ := 0
  durationDays : ℕ := 0
  deviceLimit : ℕ := 2
  expiresAt : Option Instant := none
  /-- `deleted_at` is set. -/
  isSoftDeleted : Bool := false
  xuiNodeId : String := ""
  remoteClientKey : String := ""
  lastRemoteCheck : RemoteCheck := {}
  deriving DecidableEq, Repr

namespace VPNClient

/-- `VPNClient.mark_suspended`. -/
def markSuspended (c : VPNClient) : VPNClient := { c with status := .suspended }

/-- `VPNClient.is_deleted`. -/
def isDeleted (c : VPNClient) : Bool :=
  c.status = .deleted || c.isSoftDeleted

@[simp] theorem markSuspended_pk (c : VPNClient) : c.markSuspended.pk = c.pk := rfl

end VPNClient

abbrev Customers := Table Customer.pk
abbrev Orders := Table Order.pk
abbrev Clients := Table VPNClient.pk
abbrev Inbounds := Table Inbound.pk
abbrev Panels := Table Panel.pk
abbrev Plans := Table Plan.pk
abbrev Stores := Table StoreRow.pk
abbrev Automations := Table OrderAutomation.order

end Qasedak.Store

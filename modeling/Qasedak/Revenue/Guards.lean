import Qasedak.Foundation.Window
import Qasedak.Store.Model
import Mathlib.Data.Rat.Defs
import Mathlib.Algebra.Order.Ring.Rat

/-! `store/revenue_engine/guards.py`: the limits of the revenue messages, and the check that every
executor makes before it sends one. -/

namespace Qasedak.Revenue

open Foundation Store

inductive EngineType where
  | renewal
  | upsell
  | retention
  | silentActive
  | aiOptimizer
  deriving DecidableEq, Repr

/-- `RevenueOfferLog.Status`. -/
inductive OfferStatus where
  | dryRun
  | sent
  | skipped
  | suppressed
  | failed
  | converted
  deriving DecidableEq, Repr

/-- The limits a store configures, with the defaults of its fields. -/
structure RevenueLimits where
  revenueMaxOffersPerUserPerDay : ℕ := 1
  revenueMaxOffersPerUserPerWeek : ℕ := 3
  revenueMaxTotalOffersPerDay : ℕ := 500
  revenueOfferCooldownHours : ℕ := 24
  retentionOfferCooldownHours : ℕ := 72
  deriving DecidableEq, Repr

/-- The other fields of a store that the guards read. -/
structure RevenueSwitches where
  isActive : Bool := true
  setupReady : Bool := true
  revenueEngineEnabled : Bool := true
  revenueEngineDryRun : Bool := false
  renewalEngineEnabled : Bool := true
  upsellEngineEnabled : Bool := true
  retentionEngineEnabled : Bool := true
  aiRevenueOptimizerEnabled : Bool := true
  quietHoursEnabled : Bool := false
  quietHoursStart : Option ℕ := none
  quietHoursEnd : Option ℕ := none
  revenueEngineTimezone : String := "Asia/Tehran"
  revenueMinAiConfidence : ℚ := 1 / 2
  deriving DecidableEq, Repr

structure RevenueSettings extends RevenueLimits, RevenueSwitches
  deriving DecidableEq, Repr

/-- What `resolve_revenue_context` finds of whom a message is for. -/
structure RevenueContext where
  store : Option ℕ
  customer : Option ℕ
  botUser : Option ℕ := none
  deriving DecidableEq, Repr

/-- `RevenueOfferLog`. -/
structure RevenueOfferLog extends RevenueContext where
  pk : ℕ
  engineType : EngineType
  status : OfferStatus
  skipReason : String := ""
  errorMessage : String := ""
  sentAt : Option Instant := none
  convertedAt : Option Instant := none
  createdAt : Instant
  deriving DecidableEq, Repr

/-- What a decision says that the guards and the executors read. The confidence is none where it is
missing or no number. -/
structure Decision where
  type : String := ""
  aiGenerated : Bool := false
  aiConfidence : Option ℚ := none
  deriving DecidableEq, Repr

structure RevenueGuardDecision where
  allowed : Bool
  status : OfferStatus
  reason : String := ""
  dryRun : Bool := false
  deriving DecidableEq, Repr

/-- `zoneinfo`: the names it knows, and the time of day of a point in time there. -/
structure TimeZones where
  known : String → Bool
  localTime : String → Instant → ℕ

/-- `timedelta(hours=n)`. -/
def hours (n : ℕ) : Instant := minutes (60 * n)

/-- `timedelta(days=n)`. -/
def days (n : ℕ) : Instant := hours (24 * n)

/-- `_countable_statuses`. -/
def OfferStatus.Countable (status : OfferStatus) : Prop :=
  status = .sent ∨ status = .converted

instance (status : OfferStatus) : Decidable status.Countable :=
  inferInstanceAs (Decidable (_ ∨ _))

/-! ## The limits in force -/

/-- The default of a field whose value is falsy. -/
def orDefault (value default : ℕ) : ℕ :=
  if value = 0 then default else value

/-- The limits of no store are the defaults of `getattr`. -/
def limitsOf (limits : Option RevenueLimits) : RevenueLimits := limits.getD {}

namespace RevenueLimits

def dailyUserCap (l : RevenueLimits) : ℕ := orDefault l.revenueMaxOffersPerUserPerDay 1

def weeklyUserCap (l : RevenueLimits) : ℕ := orDefault l.revenueMaxOffersPerUserPerWeek 3

def dailyTotalCap (l : RevenueLimits) : ℕ := orDefault l.revenueMaxTotalOffersPerDay 500

/-- The hours of `should_suppress_due_to_active_offer`. -/
def cooldownHours (l : RevenueLimits) (engine : EngineType) : ℕ :=
  match engine with
  | .retention | .silentActive => max (orDefault l.retentionOfferCooldownHours 24) 1
  | .renewal | .upsell | .aiOptimizer => max (orDefault l.revenueOfferCooldownHours 24) 1

end RevenueLimits

/-! ## The checks -/

/-- `is_revenue_engine_enabled`. -/
def isRevenueEngineEnabled (settings : Option RevenueSettings) : Bool :=
  settings.all (·.revenueEngineEnabled)

/-- `is_engine_enabled`. -/
def isEngineEnabled (engine : EngineType) (settings : Option RevenueSettings) : Bool :=
  isRevenueEngineEnabled settings &&
    match engine with
    | .renewal => settings.all (·.renewalEngineEnabled)
    | .upsell => settings.all (·.upsellEngineEnabled)
    | .retention | .silentActive => settings.all (·.retentionEngineEnabled)
    | .aiOptimizer => settings.all (·.aiRevenueOptimizerEnabled)

/-- `store_is_sellable`. -/
def storeIsSellable (settings : RevenueSettings) : Bool :=
  settings.isActive && settings.setupReady

/-- `is_quiet_hours_now`. -/
def isQuietHoursNow (zones : TimeZones) (settings : Option RevenueSettings) (now : Instant) :
    Bool :=
  match settings with
  | none => false
  | some s =>
      match s.quietHoursEnabled, s.quietHoursStart, s.quietHoursEnd with
      | true, some start, some stop =>
          let name := if s.revenueEngineTimezone = "" then "Asia/Tehran" else s.revenueEngineTimezone
          let zone := if zones.known name then name else "Asia/Tehran"
          let time := zones.localTime zone now
          if start ≤ stop then start ≤ time && time < stop else start ≤ time || time < stop
      | _, _, _ => false

/-- `_decimal_or_none` of a number. -/
def clampConfidence (value : ℚ) : ℚ := max (min value 1) 0

/-- The threshold of `can_send_revenue_offer`, where zero is falsy. -/
def minConfidence (settings : Option RevenueSettings) : ℚ :=
  match settings with
  | none => 1 / 2
  | some s =>
      let confidence := clampConfidence s.revenueMinAiConfidence
      if confidence = 0 then 1 / 2 else confidence

def aiConfidenceBelow (settings : Option RevenueSettings) (decision : Decision) : Bool :=
  decision.aiGenerated &&
    decision.aiConfidence.any fun value => clampConfidence value < minConfidence settings

/-- A log that counts and is for the customer or, where there is none, for the bot user. -/
def CountsFor (customer botUser : Option ℕ) (log : RevenueOfferLog) : Prop :=
  log.status.Countable ∧
    match customer, botUser with
    | some c, _ => log.customer = some c
    | none, some b => log.botUser = some b
    | none, none => False

instance (customer botUser : Option ℕ) : DecidablePred (CountsFor customer botUser) := fun log =>
  match customer, botUser with
  | some c, _ => inferInstanceAs (Decidable (log.status.Countable ∧ log.customer = some c))
  | none, some b => inferInstanceAs (Decidable (log.status.Countable ∧ log.botUser = some b))
  | none, none => inferInstanceAs (Decidable (log.status.Countable ∧ False))

/-- A log that counts for the total of the store, all of them where there is no store. -/
def CountsForStore (store : Option ℕ) (log : RevenueOfferLog) : Prop :=
  log.status.Countable ∧ ∀ s ∈ store, log.store = some s ∨ log.store = none

instance (store : Option ℕ) : DecidablePred (CountsForStore store) := fun log =>
  match store with
  | none => decidable_of_iff log.status.Countable (by simp [CountsForStore])
  | some s => decidable_of_iff (log.status.Countable ∧ (log.store = some s ∨ log.store = none))
      (by simp [CountsForStore])

/-- `get_user_offer_counts` of a number of days. -/
def getUserOfferCounts (c : RevenueContext) (period : ℕ) (now : Instant)
    (logs : List RevenueOfferLog) : ℕ :=
  countSince RevenueOfferLog.createdAt (CountsFor c.customer c.botUser) (now - days period) logs

/-- The logs that `should_suppress_due_to_active_offer` looks for. -/
def activeOfferCount (limits : RevenueLimits) (engine : EngineType) (c : RevenueContext)
    (now : Instant) (logs : List RevenueOfferLog) : ℕ :=
  countSince RevenueOfferLog.createdAt (CountsFor c.customer c.botUser)
    (now - hours (limits.cooldownHours engine)) logs

/-- The `total_today` of `can_send_revenue_offer`. -/
def totalToday (store : Option ℕ) (now : Instant) (logs : List RevenueOfferLog) : ℕ :=
  countSince RevenueOfferLog.createdAt (CountsForStore store) (now - days 1) logs

/-- What `can_send_revenue_offer` is asked about. -/
structure OfferRequest extends RevenueContext where
  hasTarget : Bool
  decision : Decision
  forceDryRun : Bool
  allowCanarySend : Bool
  deriving DecidableEq, Repr

/-- `can_send_revenue_offer`. -/
def canSendRevenueOffer (zones : TimeZones) (settings : Option RevenueSettings)
    (engine : EngineType) (r : OfferRequest) (now : Instant) (logs : List RevenueOfferLog) :
    RevenueGuardDecision :=
  let limits := limitsOf (settings.map (·.toRevenueLimits))
  let refusal (reason : String) : RevenueGuardDecision := ⟨false, .suppressed, reason, false⟩
  if isRevenueEngineEnabled settings = false then refusal "revenue_engine_disabled"
  else if isEngineEnabled engine settings = false then refusal "engine_disabled"
  else if settings.any (!storeIsSellable ·) then refusal "setup_required"
  else if r.hasTarget = false then ⟨false, .skipped, "no_personal_telegram_target", false⟩
  else if isQuietHoursNow zones settings now then refusal "quiet_hours"
  else if aiConfidenceBelow settings r.decision then refusal "ai_confidence_below_threshold"
  else if 0 < activeOfferCount limits engine r.toRevenueContext now logs then
    refusal "cooldown_active"
  else if limits.dailyUserCap ≤ getUserOfferCounts r.toRevenueContext 1 now logs then
    refusal "daily_user_cap"
  else if limits.weeklyUserCap ≤ getUserOfferCounts r.toRevenueContext 7 now logs then
    refusal "weekly_user_cap"
  else if limits.dailyTotalCap ≤ totalToday r.store now logs then refusal "daily_total_cap"
  else if r.forceDryRun then ⟨false, .dryRun, "dry_run", true⟩
  else if settings.any (·.revenueEngineDryRun) && !r.allowCanarySend then
    ⟨false, .dryRun, "dry_run", true⟩
  else ⟨true, .sent, "", false⟩

/-- What the logs keep free for one more message. -/
structure WithinLimits (limits : RevenueLimits) (engine : EngineType) (c : RevenueContext)
    (now : Instant) (logs : List RevenueOfferLog) : Prop where
  cooled : activeOfferCount limits engine c now logs = 0
  day : getUserOfferCounts c 1 now logs < limits.dailyUserCap
  week : getUserOfferCounts c 7 now logs < limits.weeklyUserCap
  total : totalToday c.store now logs < limits.dailyTotalCap

/-- A check that refuses did not hold where the decision allows. -/
theorem allowed_of_ite {P : Prop} [Decidable P] {refusal next : RevenueGuardDecision}
    (hrefusal : refusal.allowed = false)
    (h : (if P then refusal else next).allowed = true) : ¬P ∧ next.allowed = true := by
  by_cases hP : P
  · rw [if_pos hP, hrefusal] at h
    exact absurd h Bool.false_ne_true
  · rw [if_neg hP] at h
    exact ⟨hP, h⟩

/-- A decision that refuses leaves a log that does not count. -/
def RevenueGuardDecision.Uncounted (d : RevenueGuardDecision) : Prop :=
  d.allowed = false → ¬ d.status.Countable

theorem uncounted_refusal (status : OfferStatus) (reason : String) (dryRun : Bool)
    (h : ¬ status.Countable) :
    RevenueGuardDecision.Uncounted ⟨false, status, reason, dryRun⟩ := fun _ => h

theorem uncounted_ite {P : Prop} [Decidable P] {d next : RevenueGuardDecision}
    (hd : d.Uncounted) (hnext : next.Uncounted) : (if P then d else next).Uncounted := by
  by_cases hP : P
  · rw [if_pos hP]
    exact hd
  · rw [if_neg hP]
    exact hnext

theorem uncounted_canSendRevenueOffer (zones : TimeZones) (settings : Option RevenueSettings)
    (engine : EngineType) (r : OfferRequest) (now : Instant) (logs : List RevenueOfferLog) :
    (canSendRevenueOffer zones settings engine r now logs).Uncounted := by
  have hsuppressed : ¬ OfferStatus.suppressed.Countable := by decide
  have hdry : ¬ OfferStatus.dryRun.Countable := by decide
  apply uncounted_ite (uncounted_refusal _ _ _ hsuppressed)
  apply uncounted_ite (uncounted_refusal _ _ _ hsuppressed)
  apply uncounted_ite (uncounted_refusal _ _ _ hsuppressed)
  apply uncounted_ite (uncounted_refusal _ _ _ (by decide))
  apply uncounted_ite (uncounted_refusal _ _ _ hsuppressed)
  apply uncounted_ite (uncounted_refusal _ _ _ hsuppressed)
  apply uncounted_ite (uncounted_refusal _ _ _ hsuppressed)
  apply uncounted_ite (uncounted_refusal _ _ _ hsuppressed)
  apply uncounted_ite (uncounted_refusal _ _ _ hsuppressed)
  apply uncounted_ite (uncounted_refusal _ _ _ hsuppressed)
  apply uncounted_ite (uncounted_refusal _ _ _ hdry)
  apply uncounted_ite (uncounted_refusal _ _ _ hdry)
  intro hallowed
  exact absurd hallowed (by decide)

theorem withinLimits_of_allowed {zones : TimeZones} {settings : Option RevenueSettings}
    {engine : EngineType} {r : OfferRequest} {now : Instant} {logs : List RevenueOfferLog}
    (h : (canSendRevenueOffer zones settings engine r now logs).allowed = true) :
    WithinLimits (limitsOf (settings.map (·.toRevenueLimits))) engine r.toRevenueContext now
      logs := by
  obtain ⟨-, h⟩ := allowed_of_ite rfl h
  obtain ⟨-, h⟩ := allowed_of_ite rfl h
  obtain ⟨-, h⟩ := allowed_of_ite rfl h
  obtain ⟨-, h⟩ := allowed_of_ite rfl h
  obtain ⟨-, h⟩ := allowed_of_ite rfl h
  obtain ⟨-, h⟩ := allowed_of_ite rfl h
  obtain ⟨hcooldown, h⟩ := allowed_of_ite rfl h
  obtain ⟨hday, h⟩ := allowed_of_ite rfl h
  obtain ⟨hweek, h⟩ := allowed_of_ite rfl h
  obtain ⟨htotal, -⟩ := allowed_of_ite rfl h
  exact {
    cooled := Nat.eq_zero_of_not_pos hcooldown
    day := Nat.lt_of_not_le hday
    week := Nat.lt_of_not_le hweek
    total := Nat.lt_of_not_le htotal }

end Qasedak.Revenue

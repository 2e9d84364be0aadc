import Qasedak.Revenue.Guards
import Qasedak.Foundation.Run
import Mathlib.Algebra.Order.Group.Int

/-! `store/revenue_engine/actions.py` and the `actions.py` of the upsell and retention engines: the
three executors, each with its own refusals around the one guard, and the conversions of what they
have sent. -/

namespace Qasedak.Revenue

open Foundation Store

/-- What the cache and the bot's event log answer about a target at one moment. -/
structure Lookups where
  upsellActive : Bool := false
  renewalSentRecently : Bool := false
  upsellSentRecently : Bool := false
  userSkippedRecently : Bool := false
  priorityBlockReason : String := ""
  recentlyConnected : Bool := false
  silentAlertRecently : Bool := false
  discountRecently : Bool := false
  ignoredRecently : Bool := false
  retentionSentRecently : Bool := false
  deriving DecidableEq, Repr

/-- `TelegramTarget`, with its `_target_key`. -/
structure Target where
  key : String
  chatId : String
  hasBotConfig : Bool
  deriving DecidableEq, Repr

/-- What an executor reads of its context. -/
structure OfferContext where
  eventType : String := ""
  revenueDryRun : Bool := false
  dryRun : Bool := false
  revenueCanarySend : Bool := false
  revenueLimitedBatchSend : Bool := false
  deriving DecidableEq, Repr

/-- What comes of `send_to_config`. -/
inductive Delivery where
  | delivered
  | refused
  | raised (message : String)
  deriving DecidableEq, Repr

/-- One call of an executor: what it is given and finds, and the times it reads on its way. -/
structure Attempt extends RevenueContext where
  switches : RevenueSwitches := {}
  target : Option Target
  decision : Option Decision
  context : OfferContext := {}
  atGuard : Lookups := {}
  atSend : Lookups := {}
  delivery : Delivery := .delivered
  guardedAt : Instant
  sendingAt : Instant
  deliveredAt : Instant
  createdAt : Instant
  guarded_le_sending : guardedAt ≤ sendingAt
  sending_le_delivered : sendingAt ≤ deliveredAt
  delivered_le_created : deliveredAt ≤ createdAt

/-- What an executor returns. -/
structure OfferResult where
  sent : Bool := false
  skipped : Bool := false
  failed : Bool := false
  dryRun : Bool := false
  reason : String := ""
  deriving DecidableEq, Repr

/-- A reason of an executor of its own not to send, and whether it is there. -/
structure Refusal where
  holds : Bool
  status : OfferStatus := .suppressed
  reason : String
  deriving DecidableEq, Repr

def firstRefusal (refusals : List Refusal) : Option Refusal := refusals.find? (·.holds)

/-- The refusals of the guard that an executor may give a reason of its own. -/
def capReasons : List String :=
  ["cooldown_active", "daily_user_cap", "weekly_user_cap", "daily_total_cap"]

namespace Attempt

variable (a : Attempt)

/-- The row of the store, whose limits are the configured ones. -/
def settings (limits : ℕ → RevenueLimits) : Option RevenueSettings :=
  a.store.map fun s => ⟨limits s, a.switches⟩

def request (decision : Decision) (allowCanarySend : Bool) : OfferRequest :=
  { a.toRevenueContext with
    hasTarget := a.target.isSome
    decision := decision
    forceDryRun := a.context.revenueDryRun || a.context.dryRun
    allowCanarySend := allowCanarySend }

/-- `record_revenue_offer_attempt`. -/
def recordRevenueOfferAttempt (engine : EngineType) (logs : List RevenueOfferLog)
    (status : OfferStatus) (skipReason errorMessage : String) (sentAt : Option Instant) :
    List RevenueOfferLog :=
  let log : RevenueOfferLog :=
    { a.toRevenueContext with
      pk := logs.length
      engineType := engine
      status := status
      skipReason := skipReason
      errorMessage := errorMessage
      sentAt := sentAt
      createdAt := a.createdAt }
  log :: logs

def targetKey : String := a.target.elim "" (·.key)

def hasChat : Bool := a.target.any fun t => t.hasBotConfig && t.chatId ≠ ""

/-- `_silent_event(context) or decision.get("type") == "support_check_in"`. -/
def isSilent (decision : Decision) : Bool :=
  a.context.eventType = "silent_active_user" || decision.type = "support_check_in"

end Attempt

/-! ## The executors -/

section Execute

variable (zones : TimeZones) (limits : ℕ → RevenueLimits)

/-- What the three executors have in common: the guard, the `overrides` that take the place of a
refusal by a limit, the `checks` of their own, and the message. -/
def executeOffer (engine : EngineType) (allowCanarySend : Bool) (overrides checks : List Refusal)
    (sentAt : Instant) (a : Attempt) (decision : Decision) (logs : List RevenueOfferLog) :
    List RevenueOfferLog × OfferResult :=
  let guard := canSendRevenueOffer zones (a.settings limits) engine
    (a.request decision allowCanarySend) a.guardedAt logs
  let record := a.recordRevenueOfferAttempt engine logs
  let override :=
    if a.targetKey ≠ "" ∧ guard.reason ∈ capReasons then firstRefusal overrides else none
  match override with
  | some r => (record r.status r.reason "" none, { skipped := true, reason := r.reason })
  | none =>
      if guard.allowed = false then
        (record guard.status guard.reason "" none,
          { skipped := guard.status ≠ .dryRun, dryRun := guard.dryRun, reason := guard.reason })
      else if a.hasChat = false then
        (logs, { skipped := true, reason := "no_personal_telegram_target" })
      else
        match firstRefusal checks with
        | some r =>
            (record r.status r.reason "" none, { skipped := true, reason := r.reason })
        | none =>
            match a.delivery with
            | .raised message =>
                (record .failed "" message none, { failed := true, reason := message })
            | .refused =>
                (record .failed "" "send_failed" none,
                  { failed := true, reason := "send_failed" })
            | .delivered => (record .sent "" "" (some sentAt), { sent := true })

/-- `execute` of `revenue_engine/actions.py`. -/
def executeRenewal (a : Attempt) (decision : Decision) (logs : List RevenueOfferLog) :
    List RevenueOfferLog × OfferResult :=
  executeOffer zones limits .renewal false
    [{ holds := a.atGuard.upsellActive, reason := "upsell_active" }]
    [{ holds := a.atSend.upsellActive, reason := "upsell_active" },
      { holds := a.atSend.renewalSentRecently, reason := "cooldown_active" }]
    a.sendingAt a decision logs

/-- `execute` of `revenue_engine/upsell/actions.py`. -/
def executeUpsell (a : Attempt) (decision : Decision) (logs : List RevenueOfferLog) :
    List RevenueOfferLog × OfferResult :=
  executeOffer zones limits .upsell false []
    [{ holds := a.atSend.userSkippedRecently, status := .skipped, reason := "user_skipped_recently" },
      { holds := a.atSend.upsellSentRecently, reason := "cooldown_active" }]
    a.deliveredAt a decision logs

/-- `execute` of `revenue_engine/retention/actions.py`. -/
def executeRetention (a : Attempt) (decision : Decision) (logs : List RevenueOfferLog) :
    List RevenueOfferLog × OfferResult :=
  let silent := a.isSilent decision
  executeOffer zones limits (if silent then .silentActive else .retention)
    (a.context.revenueCanarySend || a.context.revenueLimitedBatchSend)
    [{ holds := a.atGuard.priorityBlockReason ≠ "", reason := a.atGuard.priorityBlockReason },
      { holds := silent && a.atGuard.silentAlertRecently, reason := "silent_cooldown_active" }]
    [{ holds := a.atSend.priorityBlockReason ≠ "", reason := a.atSend.priorityBlockReason },
      { holds := silent && a.atSend.recentlyConnected, reason := "recently_connected" },
      { holds := silent && a.atSend.silentAlertRecently, reason := "silent_cooldown_active" },
      { holds := a.atSend.discountRecently, reason := "discount_cooldown_active" },
      { holds := a.atSend.ignoredRecently, reason := "ignored_cooldown_active" },
      { holds := a.atSend.retentionSentRecently, reason := "cooldown_active" }]
    a.sendingAt a decision logs

end Execute

/-! ## Conversions -/

/-- The log of `mark_latest_revenue_offer_converted`: the latest message of the last seven days that
was sent to the customer for the store. -/
def latestSent (customer : ℕ) (store : Option ℕ) (now : Instant) (logs : List RevenueOfferLog) :
    Option RevenueOfferLog :=
  let candidates := logs.filter fun log =>
    log.customer = some customer && now - days 7 ≤ log.createdAt && log.status = .sent &&
      store.all fun s => log.store = some s || log.store = none
  candidates.foldl
    (fun best log => if best.any fun b => log.createdAt ≤ b.createdAt then best else some log) none

/-- The log of primary key `pk` is marked. -/
def RevenueOfferLog.converted (pk : ℕ) (now : Instant) (log : RevenueOfferLog) : RevenueOfferLog :=
  if log.pk = pk ∧ log.status = .sent then
    { log with status := .converted, convertedAt := some now }
  else log

/-- `mark_latest_revenue_offer_converted`. -/
def markLatestRevenueOfferConverted (customer store : Option ℕ) (now : Instant)
    (logs : List RevenueOfferLog) : List RevenueOfferLog :=
  match customer.bind (latestSent · store now logs) with
  | none => logs
  | some latest => logs.map (·.converted latest.pk now)

/-! ## Histories -/

inductive RevenueEvent where
  | renewal (a : Attempt)
  | upsell (a : Attempt)
  | retention (a : Attempt)
  | converted (customer store : Option ℕ) (now : Instant)

/-- The logs after an event, the newest first. Without a decision an executor does nothing. -/
def revenueStep (zones : TimeZones) (limits : ℕ → RevenueLimits) (logs : List RevenueOfferLog) :
    RevenueEvent → List RevenueOfferLog
  | .renewal a => a.decision.elim logs fun d => (executeRenewal zones limits a d logs).1
  | .upsell a => a.decision.elim logs fun d => (executeUpsell zones limits a d logs).1
  | .retention a => a.decision.elim logs fun d => (executeRetention zones limits a d logs).1
  | .converted customer store now => markLatestRevenueOfferConverted customer store now logs

end Qasedak.Revenue

/-! The revenue messages of a customer and of a store, over every history of renewal, upsell and
retention actions: how many of them a window holds, and how far two of them are apart. -/

namespace Qasedak.Revenue

open Foundation Store

/-! ## What an executor records -/

/-- A log that counts was recorded after its guard had found the limits of its store kept, by the
logs before it. -/
def RecordedWithin (limits : ℕ → RevenueLimits) (log : RevenueOfferLog)
    (earlier : List RevenueOfferLog) : Prop :=
  log.status.Countable → ∃ guardedAt,
    guardedAt ≤ log.createdAt ∧ (∀ t ∈ log.sentAt, guardedAt ≤ t ∧ t ≤ log.createdAt) ∧
      WithinLimits (limitsOf (log.store.map limits)) log.engineType log.toRevenueContext guardedAt
        earlier

section Execute

variable {zones : TimeZones} {limits : ℕ → RevenueLimits}

theorem Attempt.limitsOf_settings (a : Attempt) :
    limitsOf ((a.settings limits).map (·.toRevenueLimits)) = limitsOf (a.store.map limits) := by
  simp [Attempt.settings, Option.map_map, Function.comp_def]

theorem admitted_record {a : Attempt} {engine : EngineType} {logs : List RevenueOfferLog}
    (hlogs : Admitted (RecordedWithin limits) logs) {status : OfferStatus}
    (hstatus : ¬ status.Countable) (skipReason errorMessage : String) (sentAt : Option Instant) :
    Admitted (RecordedWithin limits)
      (a.recordRevenueOfferAttempt engine logs status skipReason errorMessage sentAt) :=
  ⟨fun hcountable => absurd hcountable hstatus, hlogs⟩

theorem admitted_executeOffer {engine : EngineType} {canary : Bool}
    {overrides checks : List Refusal} (hoverrides : ∀ r ∈ overrides, ¬ r.status.Countable)
    (hchecks : ∀ r ∈ checks, ¬ r.status.Countable) {a : Attempt} {sentAt : Instant}
    (hfrom : a.guardedAt ≤ sentAt) (hto : sentAt ≤ a.createdAt) (decision : Decision)
    {logs : List RevenueOfferLog} (hlogs : Admitted (RecordedWithin limits) logs) :
    Admitted (RecordedWithin limits)
      (executeOffer zones limits engine canary overrides checks sentAt a decision logs).1 := by
  have hfailed : ¬ OfferStatus.failed.Countable := by decide
  simp only [executeOffer]
  split
  case h_1 r hr =>
      apply admitted_record hlogs
      apply hoverrides r
      by_cases hkey : a.targetKey ≠ "" ∧ (canSendRevenueOffer zones (a.settings limits) engine
          (a.request decision canary) a.guardedAt logs).reason ∈ capReasons
      · rw [if_pos hkey] at hr
        exact List.mem_of_find?_eq_some hr
      · rw [if_neg hkey] at hr
        cases hr
  case h_2 =>
      by_cases hallowed : (canSendRevenueOffer zones (a.settings limits) engine
          (a.request decision canary) a.guardedAt logs).allowed = false
      · rw [if_pos hallowed]
        exact admitted_record hlogs
          (uncounted_canSendRevenueOffer zones _ engine _ a.guardedAt logs hallowed) _ _ _
      · rw [if_neg hallowed]
        by_cases hchat : a.hasChat = false
        · rw [if_pos hchat]
          exact hlogs
        · rw [if_neg hchat]
          split
          case h_1 r hr =>
              exact admitted_record hlogs (hchecks r (List.mem_of_find?_eq_some hr)) _ _ _
          case h_2 =>
              cases a.delivery with
              | raised message => exact admitted_record hlogs hfailed _ _ _
              | refused => exact admitted_record hlogs hfailed _ _ _
              | delivered =>
                  have hwithin := withinLimits_of_allowed (Bool.eq_true_of_not_eq_false hallowed)
                  rw [a.limitsOf_settings] at hwithin
                  have hcreated : a.guardedAt ≤ a.createdAt := hfrom.trans hto
                  have hsent : ∀ t ∈ some sentAt, a.guardedAt ≤ t ∧ t ≤ a.createdAt := by
                    intro t ht
                    cases ht
                    exact ⟨hfrom, hto⟩
                  exact ⟨fun _ => ⟨a.guardedAt, hcreated, hsent, hwithin⟩, hlogs⟩

theorem Attempt.guarded_le_delivered (a : Attempt) : a.guardedAt ≤ a.deliveredAt :=
  a.guarded_le_sending.trans a.sending_le_delivered

theorem Attempt.sending_le_created (a : Attempt) : a.sendingAt ≤ a.createdAt :=
  a.sending_le_delivered.trans a.delivered_le_created

theorem admitted_executeRenewal (a : Attempt) (decision : Decision) {logs : List RevenueOfferLog}
    (hlogs : Admitted (RecordedWithin limits) logs) :
    Admitted (RecordedWithin limits) (executeRenewal zones limits a decision logs).1 := by
  apply admitted_executeOffer _ _ a.guarded_le_sending a.sending_le_created decision hlogs
  · simp [OfferStatus.Countable]
  · simp [OfferStatus.Countable]

theorem admitted_executeUpsell (a : Attempt) (decision : Decision) {logs : List RevenueOfferLog}
    (hlogs : Admitted (RecordedWithin limits) logs) :
    Admitted (RecordedWithin limits) (executeUpsell zones limits a decision logs).1 := by
  apply admitted_executeOffer _ _ a.guarded_le_delivered a.delivered_le_created decision hlogs
  · simp
  · simp [OfferStatus.Countable]

theorem admitted_executeRetention (a : Attempt) (decision : Decision)
    {logs : List RevenueOfferLog} (hlogs : Admitted (RecordedWithin limits) logs) :
    Admitted (RecordedWithin limits) (executeRetention zones limits a decision logs).1 := by
  apply admitted_executeOffer _ _ a.guarded_le_sending a.sending_le_created decision hlogs
  · simp [OfferStatus.Countable]
  · simp [OfferStatus.Countable]

end Execute

/-! ## Conversions -/

section Converted

variable (pk : ℕ) (now : Instant)

theorem converted_countable (log : RevenueOfferLog) :
    (log.converted pk now).status.Countable ↔ log.status.Countable := by
  simp only [RevenueOfferLog.converted]
  split
  case isTrue h => simp [OfferStatus.Countable, h.2]
  case isFalse => rfl

theorem converted_eq (log : RevenueOfferLog) :
    (log.converted pk now).toRevenueContext = log.toRevenueContext ∧
      (log.converted pk now).engineType = log.engineType ∧
      (log.converted pk now).createdAt = log.createdAt ∧
      (log.converted pk now).sentAt = log.sentAt := by
  simp only [RevenueOfferLog.converted]
  split
  · exact ⟨rfl, rfl, rfl, rfl⟩
  · exact ⟨rfl, rfl, rfl, rfl⟩

theorem converted_countsFor (customer botUser : Option ℕ) (log : RevenueOfferLog) :
    CountsFor customer botUser (log.converted pk now) ↔ CountsFor customer botUser log := by
  have hcontext := (converted_eq pk now log).1
  have hcustomer := congrArg RevenueContext.customer hcontext
  have hbotUser := congrArg RevenueContext.botUser hcontext
  simp only [CountsFor, converted_countable, hcustomer, hbotUser]

theorem converted_countsForStore (store : Option ℕ) (log : RevenueOfferLog) :
    CountsForStore store (log.converted pk now) ↔ CountsForStore store log := by
  have hstore := congrArg RevenueContext.store (converted_eq pk now log).1
  simp only [CountsForStore, converted_countable, hstore]

theorem withinLimits_converted {limits : RevenueLimits} {engine : EngineType} {c : RevenueContext}
    {guardedAt : Instant} {logs : List RevenueOfferLog}
    (h : WithinLimits limits engine c guardedAt logs) :
    WithinLimits limits engine c guardedAt (logs.map (·.converted pk now)) := by
  have htime (log : RevenueOfferLog) : (log.converted pk now).createdAt = log.createdAt :=
    (converted_eq pk now log).2.2.1
  have hcustomer (start : Instant) := countSince_map (p := CountsFor c.customer c.botUser) htime
    (converted_countsFor pk now c.customer c.botUser) start logs
  have hstore (start : Instant) := countSince_map (p := CountsForStore c.store) htime
    (converted_countsForStore pk now c.store) start logs
  exact {
    cooled := (hcustomer _).trans h.cooled
    day := (hcustomer _).trans_lt h.day
    week := (hcustomer _).trans_lt h.week
    total := (hstore _).trans_lt h.total }

theorem recordedWithin_converted {limits : ℕ → RevenueLimits} (log : RevenueOfferLog)
    (earlier : List RevenueOfferLog) (h : RecordedWithin limits log earlier) :
    RecordedWithin limits (log.converted pk now) (earlier.map (·.converted pk now)) := by
  intro hcountable
  obtain ⟨guardedAt, hcreated, hsent, hwithin⟩ := h ((converted_countable pk now log).mp hcountable)
  obtain ⟨hcontext, hengine, hcreatedAt, hsentAt⟩ := converted_eq pk now log
  rw [hcreatedAt, hsentAt, hcontext, hengine]
  exact ⟨guardedAt, hcreated, hsent, withinLimits_converted pk now hwithin⟩

end Converted

/-! ## Histories -/

section History

variable (zones : TimeZones) (limits : ℕ → RevenueLimits)

theorem admitted_revenueStep (logs : List RevenueOfferLog) (e : RevenueEvent)
    (hlogs : Admitted (RecordedWithin limits) logs) :
    Admitted (RecordedWithin limits) (revenueStep zones limits logs e) := by
  cases e with
  | renewal a =>
      simp only [revenueStep]
      cases a.decision with
      | none => exact hlogs
      | some decision => exact admitted_executeRenewal a decision hlogs
  | upsell a =>
      simp only [revenueStep]
      cases a.decision with
      | none => exact hlogs
      | some decision => exact admitted_executeUpsell a decision hlogs
  | retention a =>
      simp only [revenueStep]
      cases a.decision with
      | none => exact hlogs
      | some decision => exact admitted_executeRetention a decision hlogs
  | converted customer store now =>
      simp only [revenueStep, markLatestRevenueOfferConverted]
      split
      · exact hlogs
      · exact hlogs.map (recordedWithin_converted _ now)

theorem admitted_run (events : List RevenueEvent) :
    Admitted (RecordedWithin limits) (run (revenueStep zones limits) [] events) :=
  run_invariant (admitted_revenueStep zones limits) events trivial

end History

section Caps

variable {limits : ℕ → RevenueLimits}

/-- The limits of the store that the log is of. -/
def capsOf (limits : ℕ → RevenueLimits) (log : RevenueOfferLog) : RevenueLimits :=
  limitsOf (log.store.map limits)

theorem lt_cap_of_recordedWithin {customer : ℕ} {period : ℕ} {cap : RevenueLimits → ℕ}
    (hcap : ∀ {l engine c now logs}, WithinLimits l engine c now logs →
      getUserOfferCounts c period now logs < cap l)
    (log : RevenueOfferLog) (earlier : List RevenueOfferLog)
    (hlog : RecordedWithin limits log earlier) (hcounts : CountsFor (some customer) none log) :
    countSince RevenueOfferLog.createdAt (CountsFor (some customer) none)
      (log.createdAt - days period) earlier < cap (capsOf limits log) := by
  obtain ⟨hcountable, hcustomer⟩ := hcounts
  obtain ⟨guardedAt, hcreated, -, hwithin⟩ := hlog hcountable
  have hsince : guardedAt - days period ≤ log.createdAt - days period :=
    sub_le_sub_right hcreated _
  have hsame (x : RevenueOfferLog) (hx : CountsFor (some customer) none x) :
      CountsFor log.customer log.botUser x := by
    have hcustomer : log.customer = some customer := hcustomer
    rw [hcustomer]
    exact hx
  exact (countSince_mono hsince hsame earlier).trans_lt (hcap hwithin)

theorem lt_total_of_recordedWithin {store : Option ℕ} (log : RevenueOfferLog)
    (earlier : List RevenueOfferLog) (hlog : RecordedWithin limits log earlier)
    (hcounts : log.status.Countable ∧ log.store = store) :
    countSince RevenueOfferLog.createdAt (fun x => x.status.Countable ∧ x.store = store)
      (log.createdAt - days 1) earlier < (capsOf limits log).dailyTotalCap := by
  obtain ⟨hcountable, rfl⟩ := hcounts
  obtain ⟨guardedAt, hcreated, -, hwithin⟩ := hlog hcountable
  have hsince : guardedAt - days 1 ≤ log.createdAt - days 1 := sub_le_sub_right hcreated _
  have hsame (x : RevenueOfferLog) (hx : x.status.Countable ∧ x.store = log.store) :
      CountsForStore log.store x :=
    ⟨hx.1, fun s hs => Or.inl (hx.2.trans hs)⟩
  exact (countSince_mono hsince hsame earlier).trans_lt hwithin.total

/-- The later of two messages of one customer was recorded, and sent, more than the cooldown of its
engine and store after the earlier one. -/
def Cooled (limits : ℕ → RevenueLimits) (later earlier : RevenueOfferLog) : Prop :=
  later.status.Countable → earlier.status.Countable → later.customer ≠ none →
    later.customer = earlier.customer →
      let cooldown := hours ((capsOf limits later).cooldownHours later.engineType)
      earlier.createdAt + cooldown < later.createdAt ∧
        ∀ t ∈ later.sentAt, earlier.createdAt + cooldown < t

theorem cooled_of_recordedWithin (later : RevenueOfferLog) (logs : List RevenueOfferLog)
    (hlater : RecordedWithin limits later logs) (earlier : RevenueOfferLog)
    (hearlier : earlier ∈ logs) : Cooled limits later earlier := by
  intro hcountable hcountable' hcustomer hsame
  obtain ⟨guardedAt, hcreated, hsent, hwithin⟩ := hlater hcountable
  obtain ⟨c, hc⟩ := Option.ne_none_iff_exists'.mp hcustomer
  have hcounts : CountsFor later.customer later.botUser earlier := by
    rw [hc]
    exact ⟨hcountable', hsame.symm.trans hc⟩
  have hbefore := countSince_eq_zero.mp hwithin.cooled earlier hearlier hcounts
  have hbefore := lt_sub_iff_add_lt.mp hbefore
  exact ⟨hbefore.trans_le hcreated, fun t ht => hbefore.trans_le (hsent t ht).1⟩

/-- In every history a closed window of a day or of a week holds no more messages of a customer
than the caps of the stores they are of, a day no more messages of a store than its cap, and any
two messages of a customer are more than the cooldown apart. A cap of zero stands for its default.
-/
theorem revenue_caps_kept (zones : TimeZones) (limits : ℕ → RevenueLimits)
    (events : List RevenueEvent) (customer : ℕ) (store : Option ℕ) (start : Instant) (n : ℕ) :
    let logs := run (revenueStep zones limits) [] events
    ((∀ log ∈ logs, CountsFor (some customer) none log → start ≤ log.createdAt →
        log.createdAt ≤ start + days 1 → (capsOf limits log).dailyUserCap ≤ n) →
      windowCount RevenueOfferLog.createdAt (days 1) (CountsFor (some customer) none) start logs
        ≤ n) ∧
    ((∀ log ∈ logs, CountsFor (some customer) none log → start ≤ log.createdAt →
        log.createdAt ≤ start + days 7 → (capsOf limits log).weeklyUserCap ≤ n) →
      windowCount RevenueOfferLog.createdAt (days 7) (CountsFor (some customer) none) start logs
        ≤ n) ∧
    windowCount RevenueOfferLog.createdAt (days 1)
        (fun log => log.status.Countable ∧ log.store = store) start logs ≤
      (limitsOf (store.map limits)).dailyTotalCap ∧
    logs.Pairwise (Cooled limits) := by
  intro logs
  have hlogs : Admitted (RecordedWithin limits) logs := admitted_run zones limits events
  have htotal : ∀ log ∈ logs, log.status.Countable ∧ log.store = store → start ≤ log.createdAt →
      log.createdAt ≤ start + days 1 →
        (capsOf limits log).dailyTotalCap ≤ (limitsOf (store.map limits)).dailyTotalCap := by
    intro log _ hlog _ _
    rw [capsOf, hlog.2]
  exact ⟨hlogs.windowCount_le (lt_cap_of_recordedWithin fun h => h.day),
    hlogs.windowCount_le (lt_cap_of_recordedWithin fun h => h.week),
    hlogs.windowCount_le lt_total_of_recordedWithin htotal,
    hlogs.pairwise cooled_of_recordedWithin⟩

end Caps

/-- A store whose caps are all zero. -/
def zeroLimits : RevenueLimits where
  revenueMaxOffersPerUserPerDay := 0
  revenueMaxOffersPerUserPerWeek := 0
  revenueMaxTotalOffersPerDay := 0

def tehranOnly : TimeZones where
  known name := name = "Asia/Tehran"
  localTime _ _ := 0

/-- A renewal offer to customer 1 of store 1. -/
def renewalOffer : Attempt where
  store := some 1
  customer := some 1
  target := some ⟨"7", "7", true⟩
  decision := some {}
  guardedAt := 0
  sendingAt := 0
  deliveredAt := 0
  createdAt := 0
  guarded_le_sending := le_rfl
  sending_le_delivered := le_rfl
  delivered_le_created := le_rfl

/-- Caps of zero let a message through. -/
theorem zero_caps_send_one :
    let logs := run (revenueStep tehranOnly fun _ => zeroLimits) [] [.renewal renewalOffer]
    zeroLimits.revenueMaxOffersPerUserPerDay <
        windowCount RevenueOfferLog.createdAt (days 1) (CountsFor (some 1) none) 0 logs ∧
      zeroLimits.revenueMaxOffersPerUserPerWeek <
        windowCount RevenueOfferLog.createdAt (days 7) (CountsFor (some 1) none) 0 logs ∧
      zeroLimits.revenueMaxTotalOffersPerDay <
        windowCount RevenueOfferLog.createdAt (days 1)
          (fun log => log.status.Countable ∧ log.store = some 1) 0 logs := by
  decide +kernel

end Qasedak.Revenue

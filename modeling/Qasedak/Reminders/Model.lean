import Mathlib
import Qasedak.Store.Model
import Mathlib.Logic.Function.Basic

/-! `store/renewal_reminder_services.py`: which reminders of a client are due, and when one that is
due is sent. -/

namespace Qasedak.Reminders

open Store

inductive ReminderType where
  | expiryBefore
  | expiryToday
  | expiryAfter
  | lowTraffic
  deriving DecidableEq, Repr

/-- `VPNClientReminderLog.Status`. -/
inductive LogStatus where
  | sent
  | skipped
  | failed
  deriving DecidableEq, Repr

/-- `ReminderSettings`, with the threshold of the traffic in hundredths of a gigabyte. -/
structure ReminderSettings where
  renewalRemindersEnabled : Bool := true
  reminderDaysBeforeExpiry : List ℕ := [3, 1, 0]
  reminderDaysAfterExpiry : List ℕ := [1, 3]
  lowTrafficRemindersEnabled : Bool := true
  lowTrafficPercentThreshold : ℕ := 20
  lowTrafficGbHundredths : ℕ := 200
  reminderCooldownHours : ℕ := 24
  reminderMaxPerClientPerDay : ℕ := 1
  renewalRemindersStartAt : Option Instant := none
  deriving DecidableEq, Repr

/-- What `get_live_client_usage` says of a client. -/
structure LiveUsage where
  totalTrafficBytes : ℤ
  remainingTrafficBytes : Option ℤ
  expiryAt : Option Instant
  usageKnown : Bool
  deriving DecidableEq, Repr

structure ReminderDecision where
  reminderType : ReminderType
  triggerKey : String
  deriving DecidableEq, Repr

/-! ## What is due -/

section Due

variable (localDate : Instant → ℤ) (settings : ReminderSettings) (now : Instant)

/-- `should_send_expiry_reminder`. -/
def shouldSendExpiryReminder (expiryAt : Option Instant) : List ReminderDecision :=
  if settings.renewalRemindersEnabled = false then []
  else
    match expiryAt with
    | none => []
    | some expiry =>
        let days := localDate expiry - localDate now
        if 0 < days ∧ days.toNat ∈ settings.reminderDaysBeforeExpiry then
          [⟨.expiryBefore, s!"before_{days.toNat}d"⟩]
        else if days = 0 ∧ 0 ∈ settings.reminderDaysBeforeExpiry then [⟨.expiryToday, "today"⟩]
        else if days < 0 ∧ days.natAbs ∈ settings.reminderDaysAfterExpiry then
          [⟨.expiryAfter, s!"after_{days.natAbs}d"⟩]
        else []

/-- `_decimal_label` of hundredths. -/
def decimalLabel (hundredths : ℕ) : String :=
  let whole := toString (hundredths / 100)
  let tenths := toString (hundredths % 100 / 10)
  let rest := toString (hundredths % 10)
  if hundredths % 100 = 0 then whole
  else if hundredths % 10 = 0 then whole ++ "." ++ tenths
  else whole ++ "." ++ tenths ++ rest

/-- `int(low_traffic_gb_threshold * BYTES_PER_GB)`. -/
def gbThresholdBytes : ℤ := settings.lowTrafficGbHundredths * 1024 ^ 3 / 100

/-- `should_send_low_traffic_reminder`. -/
def shouldSendLowTrafficReminder (usage : LiveUsage) (expiryAt : Option Instant) :
    Option ReminderDecision :=
  if settings.lowTrafficRemindersEnabled = false then none
  else if expiryAt.any fun expiry => expiry ≤ now then none
  else if usage.usageKnown = false then none
  else
    match usage.remainingTrafficBytes with
    | none => none
    | some bytes =>
        let remaining := max bytes 0
        if usage.totalTrafficBytes ≤ 0 then none
        else if remaining * 100 ≤ settings.lowTrafficPercentThreshold * usage.totalTrafficBytes then
          some ⟨.lowTraffic, s!"low_traffic_{settings.lowTrafficPercentThreshold}pct"⟩
        else if remaining ≤ gbThresholdBytes settings then
          some ⟨.lowTraffic, "low_traffic_" ++ decimalLabel settings.lowTrafficGbHundredths ++ "gb"⟩
        else none

/-- `calculate_client_reminder_status`. -/
def calculateClientReminderStatus (usage : LiveUsage) (expiryAt : Option Instant) :
    List ReminderDecision :=
  shouldSendExpiryReminder localDate settings now expiryAt ++
    (shouldSendLowTrafficReminder settings now usage expiryAt).toList

end Due

/-! ## The log -/

/-- What the unique constraint of the log is on. -/
structure ReminderKey where
  client : ℕ
  reminderType : ReminderType
  triggerKey : String
  triggerDate : ℤ
  deriving DecidableEq, Repr

/-- `VPNClientReminderLog`. -/
structure ReminderLog where
  key : ReminderKey
  status : LogStatus
  sentToTelegramId : String := ""
  errorMessage : String := ""
  sentAt : Option Instant := none
  createdAt : Instant
  updatedAt : Instant
  deriving DecidableEq, Repr

/-- What `_record_reminder_log` is told. -/
structure ReminderRecord where
  status : LogStatus
  telegramId : String := ""
  errorMessage : String := ""
  sentAt : Option Instant := none
  deriving DecidableEq, Repr

def ReminderLog.recorded (log : ReminderLog) (r : ReminderRecord) (clock : Instant) :
    ReminderLog :=
  { log with
    status := r.status
    sentToTelegramId := if r.telegramId = "" then log.sentToTelegramId else r.telegramId
    errorMessage := r.errorMessage
    sentAt := r.sentAt.orElse fun _ => log.sentAt
    updatedAt := clock }

/-- `_record_reminder_log`. -/
def recordReminderLog (logs : List ReminderLog) (key : ReminderKey) (r : ReminderRecord)
    (clock : Instant) : List ReminderLog :=
  if logs.any (·.key = key) then
    logs.map fun log => if log.key = key then log.recorded r clock else log
  else
    let log : ReminderLog :=
      { key := key
        status := r.status
        createdAt := clock
        updatedAt := clock }
    logs ++ [log.recorded r clock]

/-- Two keys of one trigger; a low traffic one counts for its day. -/
def SameTrigger (a b : ReminderKey) : Prop :=
  a.client = b.client ∧ a.reminderType = b.reminderType ∧ a.triggerKey = b.triggerKey ∧
    (a.reminderType = .lowTraffic → a.triggerDate = b.triggerDate)

instance (a b : ReminderKey) : Decidable (SameTrigger a b) :=
  inferInstanceAs (Decidable (_ ∧ _))

/-- `_sent_duplicate_exists`. -/
def sentDuplicateExists (logs : List ReminderLog) (key : ReminderKey) : Bool :=
  logs.any fun log => log.status = .sent && SameTrigger key log.key

/-- The order of `_latest_attempt`. -/
def isLater (log other : ReminderLog) : Bool :=
  other.updatedAt < log.updatedAt ||
    log.updatedAt = other.updatedAt && other.createdAt < log.createdAt

/-- `_latest_attempt`. -/
def latestAttempt (logs : List ReminderLog) (key : ReminderKey) : Option ReminderLog :=
  let attempts := logs.filter fun log =>
    log.key.client = key.client && log.key.reminderType = key.reminderType &&
      (key.reminderType = .lowTraffic || log.key.triggerKey = key.triggerKey)
  attempts.foldl (fun best log => if best.any fun b => !isLater log b then best else some log) none

/-- `_cooldown_active`. -/
def cooldownActive (logs : List ReminderLog) (key : ReminderKey) (settings : ReminderSettings)
    (now : Instant) : Bool :=
  match latestAttempt logs key with
  | none => false
  | some latest =>
      if latest.status = .sent ∧ key.reminderType ≠ .lowTraffic then false
      else now - minutes (60 * settings.reminderCooldownHours) < latest.sentAt.getD latest.updatedAt

/-- `_daily_sent_count`. -/
def dailySentCount (logs : List ReminderLog) (client : ℕ) (date : ℤ) : ℕ :=
  logs.countP fun log =>
    log.key.client = client && log.key.triggerDate = date && log.status = .sent

/-! ## Sending -/

/-- A message that was sent, with the expiry that it was for. -/
structure SentReminder where
  key : ReminderKey
  expiryAt : Option Instant
  deriving DecidableEq, Repr

/-- The log, the expiries of the clients and the messages that were sent, the last one first. -/
structure ReminderSystem where
  logs : List ReminderLog := []
  expiresAt : ℕ → Option Instant := fun _ => none
  sent : List SentReminder := []

/-- What the world outside says to one reminder: the chat, what the message comes to, and the
clock before and after it. -/
structure Attempt where
  target : Option String
  outcome : Except String Unit := .ok ()
  before : Instant
  after : Instant

inductive ReminderResult where
  | sent
  | skipped (reason : String)
  | failed (error : String)
  | wouldSend
  deriving DecidableEq, Repr

def alreadySent : String := "Reminder was already sent for this trigger."

def cooldownReason : String := "Reminder cooldown is active."

def dailyLimitReason : String := "Daily reminder limit reached for this VPN client."

def noTargetReason : String := "No active Telegram target was found for this VPN client."

/-- The system with a record in its log. -/
def ReminderSystem.record (s : ReminderSystem) (key : ReminderKey) (r : ReminderRecord)
    (clock : Instant) : ReminderSystem :=
  { s with logs := recordReminderLog s.logs key r clock }

/-- `_skip_result`. -/
def skipResult (s : ReminderSystem) (key : ReminderKey) (reason : String) (clock : Instant) :
    ReminderResult × ReminderSystem :=
  (.skipped reason, s.record key ⟨.skipped, "", reason, none⟩ clock)

/-- The message goes out: it is logged as skipped before, and as what it came to after. -/
def deliver (s : ReminderSystem) (key : ReminderKey) (expiryAt : Option Instant) (chat : String)
    (answer : Attempt) : ReminderResult × ReminderSystem :=
  let s := s.record key ⟨.skipped, chat, "", none⟩ answer.before
  match answer.outcome with
  | .error error => (.failed error, s.record key ⟨.failed, chat, error, none⟩ answer.after)
  | .ok () =>
      (.sent, { s.record key ⟨.sent, chat, "", some answer.after⟩ answer.after with
        sent := ⟨key, expiryAt⟩ :: s.sent })

/-- `send_reminder_to_customer`. -/
def sendReminderToCustomer (s : ReminderSystem) (key : ReminderKey) (expiryAt : Option Instant)
    (settings : ReminderSettings) (dryRun : Bool) (now : Instant) (answer : Attempt) :
    ReminderResult × ReminderSystem :=
  if sentDuplicateExists s.logs key then (.skipped alreadySent, s)
  else if cooldownActive s.logs key settings now then (.skipped cooldownReason, s)
  else if settings.reminderMaxPerClientPerDay ≤ dailySentCount s.logs key.client key.triggerDate then
    skipResult s key dailyLimitReason answer.before
  else
    match answer.target with
    | none =>
        if dryRun then (.skipped noTargetReason, s)
        else skipResult s key noTargetReason answer.before
    | some chat => if dryRun then (.wouldSend, s) else deliver s key expiryAt chat answer

/-! ## Runs -/

/-- `--type`. -/
inductive TypeFilter where
  | all
  | expiry
  | traffic
  deriving DecidableEq, Repr

/-- `_decision_matches`. -/
def decisionMatches (d : ReminderDecision) : TypeFilter → Bool
  | .all => true
  | .expiry => d.reminderType ≠ .lowTraffic
  | .traffic => d.reminderType = .lowTraffic

/-- A client that a run comes to, with what is known and answered then. -/
structure Visit where
  client : ℕ
  createdAt : Option Instant := none
  settings : ReminderSettings
  usage : LiveUsage
  attempt : ReminderDecision → Attempt

/-- `_client_is_before_reminder_start`. -/
def Visit.isBeforeStart (v : Visit) : Bool :=
  v.settings.renewalRemindersStartAt.any fun start => v.createdAt.any fun t => t < start

/-- How a run is called. -/
structure RunOptions where
  now : Instant
  dryRun : Bool := false
  typeFilter : TypeFilter := .all
  deriving DecidableEq, Repr

section Runs

variable (localDate : Instant → ℤ) (o : RunOptions)

/-- `_expiry_at`. -/
def Visit.expiryAt (v : Visit) (s : ReminderSystem) : Option Instant :=
  v.usage.expiryAt.orElse fun _ => s.expiresAt v.client

def Visit.decisions (v : Visit) (s : ReminderSystem) : List ReminderDecision :=
  (calculateClientReminderStatus localDate v.settings o.now v.usage (v.expiryAt s)).filter
    fun d => decisionMatches d o.typeFilter

def Visit.key (v : Visit) (d : ReminderDecision) : ReminderKey :=
  ⟨v.client, d.reminderType, d.triggerKey, localDate o.now⟩

/-- The reminders of one client. -/
def visit (s : ReminderSystem) (v : Visit) : ReminderSystem :=
  (v.decisions localDate o s).foldl (fun t d =>
    (sendReminderToCustomer t (v.key localDate o d) (v.expiryAt s) v.settings o.dryRun o.now
      (v.attempt d)).2) s

/-- `run_renewal_reminders`, with how many clients may still be looked at. -/
def runRenewalReminders : Option ℕ → List Visit → ReminderSystem → ReminderSystem
  | _, [], s => s
  | limit, v :: visits, s =>
      if v.isBeforeStart then runRenewalReminders limit visits s
      else if limit = some 0 then s
      else runRenewalReminders (limit.map (· - 1)) visits (visit localDate o s v)

inductive ReminderEvent where
  | run (o : RunOptions) (limit : Option ℕ) (visits : List Visit)
  /-- A client has another expiry, by a renewal or by the panel. -/
  | renew (client : ℕ) (expiresAt : Option Instant)

def remind (s : ReminderSystem) : ReminderEvent → ReminderSystem
  | .run o limit visits => runRenewalReminders localDate o (limit.filter (0 < ·)) visits s
  | .renew client expiresAt =>
      { s with expiresAt := Function.update s.expiresAt client expiresAt }

end Runs

end Qasedak.Reminders

import Mathlib
import Qasedak.Panels.UsageTruth
import Qasedak.Reminders.Model

/-! A run of the reminders with what it reads and reports: the usage of each client comes from its
panel, and every decision has a result. -/

namespace Qasedak.Reminders

open Foundation Store Panels

/-! ## The usage of a client -/

/-- `_local_usage`. -/
def localUsage (c : UsageClient) : LiveUsage :=
  let known := c.trafficLimitBytes ≠ 0 && (c.lastSyncedAt.isSome || c.usedTrafficBytes ≠ 0)
  { totalTrafficBytes := c.trafficLimitBytes
    remainingTrafficBytes := if known then some ((c.trafficLimitBytes - c.usedTrafficBytes : ℕ) : ℤ) else none
    expiryAt := c.expiresAt
    usageKnown := known }

/-- `_usage_from_stats`. -/
def usageFromStats (c : UsageClient) (stats : XUIClientStats) : LiveUsage where
  totalTrafficBytes := stats.totalTrafficBytes
  remainingTrafficBytes := some (stats.remainingTrafficBytes : ℤ)
  expiryAt := stats.expiryAt.orElse fun _ => c.expiresAt
  usageKnown := stats.panelAvailable &&
    (stats.raw.traffic.any (·.hasUsageStats) || stats.raw.client.any (·.hasUsageStats)) &&
      stats.totalTrafficBytes ≠ 0

/-- The statistics that `sync_vpn_client_stats` returns; none where it raises. -/
def syncStats (clock : Instant) (c : UsageClient) (answer : UsageAnswer) : Option XUIClientStats :=
  if c.isDeleted ∨ c.inbound.isNone then some { panelAvailable := false }
  else getClientStats clock c answer

/-- The row after `get_live_client_usage`. -/
def syncedClient (clock : Instant) (c : UsageClient) (answer : UsageAnswer) : UsageClient :=
  syncVpnClientStats clock (syncStats clock c answer) c

/-- `get_live_client_usage`. -/
def getLiveClientUsage (clock : Instant) (c : UsageClient) (answer : UsageAnswer) : LiveUsage :=
  match syncStats clock c answer with
  | none => localUsage c
  | some stats =>
      let usage := usageFromStats (syncedClient clock c answer) stats
      if usage.usageKnown = false ∧ (localUsage c).usageKnown = true then localUsage c else usage

/-! ## Runs -/

/-- The log, the rows of the clients and the messages that were sent. -/
structure LiveSystem where
  reminders : ReminderSystem := {}
  clients : ℕ → UsageClient

/-- A client that a run comes to, and what is answered then. -/
structure LiveVisit where
  client : ℕ
  createdAt : Option Instant := none
  settings : ReminderSettings
  answer : UsageAnswer
  clock : Instant
  attempt : ReminderDecision → Attempt

abbrev ReminderResults := List (ReminderKey × ReminderResult)

/-- `_client_is_before_reminder_start`. -/
def LiveVisit.isBeforeStart (v : LiveVisit) : Bool :=
  v.settings.renewalRemindersStartAt.any fun start => v.createdAt.any fun t => t < start

section Runs

variable (localDate : Instant → ℤ) (o : RunOptions)

def LiveVisit.key (v : LiveVisit) (d : ReminderDecision) : ReminderKey :=
  ⟨v.client, d.reminderType, d.triggerKey, localDate o.now⟩

/-- `_expiry_at`. -/
def LiveVisit.expiryAt (v : LiveVisit) (c : UsageClient) : Option Instant :=
  (getLiveClientUsage v.clock c v.answer).expiryAt.orElse fun _ =>
    (syncedClient v.clock c v.answer).expiresAt

/-- The decisions about a client. -/
def LiveVisit.due (v : LiveVisit) (c : UsageClient) : List ReminderDecision :=
  (calculateClientReminderStatus localDate v.settings o.now
    (getLiveClientUsage v.clock c v.answer) (v.expiryAt c)).filter fun d =>
      decisionMatches d o.typeFilter

/-- The reminders of one client, with their results. -/
def sendDue (v : LiveVisit) (expiryAt : Option Instant) :
    List ReminderDecision → ReminderSystem → ReminderSystem × ReminderResults
  | [], s => (s, [])
  | d :: decisions, s =>
      let one := sendReminderToCustomer s (v.key localDate o d) expiryAt v.settings o.dryRun o.now
        (v.attempt d)
      let rest := sendDue v expiryAt decisions one.2
      (rest.1, (v.key localDate o d, one.1) :: rest.2)

/-- One client: its usage is read, and its reminders are sent. -/
def liveVisit (s : LiveSystem) (v : LiveVisit) : LiveSystem × ReminderResults :=
  let c := s.clients v.client
  let sent := sendDue localDate o v (v.expiryAt c) (v.due localDate o c) s.reminders
  ({ reminders := sent.1
     clients := Function.update s.clients v.client (syncedClient v.clock c v.answer) }, sent.2)

/-- The loop of `run_renewal_reminders`, with how many clients may still be looked at; the results
are those of its summary. -/
def liveRun : Option ℕ → List LiveVisit → LiveSystem → LiveSystem × ReminderResults
  | _, [], s => (s, [])
  | limit, v :: visits, s =>
      if v.isBeforeStart then liveRun limit visits s
      else if limit = some 0 then (s, [])
      else
        let one := liveVisit localDate o s v
        let rest := liveRun (limit.map (· - 1)) visits one.1
        (rest.1, one.2 ++ rest.2)

end Runs

/-- A call of `run_renewal_reminders`: its queryset is read from the rows of the clients, each
client once. -/
structure ReminderCall where
  now : Instant
  limit : Option ℕ := none
  typeFilter : TypeFilter := .all
  candidates : (ℕ → UsageClient) → List LiveVisit
  distinct : ∀ clients, ((candidates clients).map (·.client)).Nodup

def ReminderCall.options (call : ReminderCall) (dryRun : Bool) : RunOptions :=
  { now := call.now, dryRun := dryRun, typeFilter := call.typeFilter }

/-- `run_renewal_reminders`. -/
def ReminderCall.run (localDate : Instant → ℤ) (call : ReminderCall) (dryRun : Bool)
    (s : LiveSystem) : LiveSystem × ReminderResults :=
  liveRun localDate (call.options dryRun) (call.limit.filter (0 < ·)) (call.candidates s.clients) s

end Qasedak.Reminders

import Qasedak.Store.Model

/-! `store/panel_health_services.py`: the health of a panel as its checks leave it, and the messages
to the admins that a check sends. -/

namespace Qasedak.PanelHealth

open Store

/-! ## Rows and settings -/

/-- `PanelHealthStatus.Status`. -/
inductive HealthState where
  | unknown
  | ok
  | warning
  | error
  | disabled
  deriving DecidableEq, Repr

/-- `PROBLEM_STATUSES`. -/
def HealthState.Problem (status : HealthState) : Prop := status = .warning ∨ status = .error

instance (status : HealthState) : Decidable status.Problem := inferInstanceAs (Decidable (_ ∨ _))

structure PanelMonitorSettings where
  alertsEnabled : Bool := true
  alertRepeatIntervalMinutes : ℕ := 60
  failureThresholdCount : ℕ := 2
  recoveryAlertEnabled : Bool := true
  quietHoursEnabled : Bool := false
  quietHoursStart : Option ℕ := none
  quietHoursEnd : Option ℕ := none
  deriving DecidableEq, Repr

/-- What a panel says about its alerts. -/
structure MonitoredPanel where
  healthAlertEnabled : Bool := true
  alertRepeatIntervalMinutes : Option ℤ := none
  failureThresholdCount : Option ℤ := none
  deriving DecidableEq, Repr

structure PanelHealthStatus where
  status : HealthState := .unknown
  lastCheckedAt : Option Instant := none
  lastOkAt : Option Instant := none
  lastErrorAt : Option Instant := none
  lastRecoveryAt : Option Instant := none
  lastAlertSentAt : Option Instant := none
  lastRecoveryAlertSentAt : Option Instant := none
  lastAlertErrorCode : String := ""
  consecutiveFailures : ℕ := 0
  consecutiveSuccesses : ℕ := 0
  errorCode : String := ""
  errorMessage : String := ""
  summary : String := ""
  deriving DecidableEq, Repr

structure PanelHealthCheckLog where
  status : HealthState
  checkedAt : Instant
  errorCode : String := ""
  errorMessage : String := ""
  alertSent : Bool := false
  deriving DecidableEq, Repr

inductive AlertKind where
  | problem
  | recovery
  deriving DecidableEq, Repr

/-- What `send_admin_message_to_telegram_admins` answers. -/
structure AlertDelivery where
  sent : ℕ
  failed : ℕ := 0
  deriving DecidableEq, Repr

/-- A message to the admins, with what became of it. -/
structure AdminMessage where
  kind : AlertKind
  sent : ℕ
  sentAt : Instant
  deriving DecidableEq, Repr

/-- A panel's health: its row, the log of its checks and the messages about it, the last first. -/
structure PanelMonitor where
  healthStatus : Option PanelHealthStatus := none
  logs : List PanelHealthCheckLog := []
  messages : List AdminMessage := []
  deriving DecidableEq, Repr

/-! ## The decision -/

/-- `_positive_int` of a field of the panel. -/
def positiveInt (value : Option ℤ) (default : ℕ) : ℕ :=
  match value with
  | some value => if 0 < value then value.toNat else default
  | none => default

/-- `panel_alert_repeat_interval_minutes`. -/
def panelAlertRepeatIntervalMinutes (panel : MonitoredPanel) (settings : PanelMonitorSettings) : ℕ :=
  positiveInt panel.alertRepeatIntervalMinutes settings.alertRepeatIntervalMinutes

/-- `panel_alert_failure_threshold_count`. -/
def panelAlertFailureThresholdCount (panel : MonitoredPanel) (settings : PanelMonitorSettings) : ℕ :=
  positiveInt panel.failureThresholdCount settings.failureThresholdCount

/-- What `build_panel_health_result` finds. -/
structure HealthResult where
  status : HealthState
  checkedAt : Instant
  errorCode : String := ""
  errorMessage : String := ""
  summary : String := ""
  deriving DecidableEq, Repr

structure AlertDecision where
  action : Option AlertKind
  reason : String
  wouldSend : Bool
  deriving DecidableEq, Repr

def AlertDecision.skip (reason : String) : AlertDecision := ⟨none, reason, false⟩

def AlertDecision.send (kind : AlertKind) : AlertDecision := ⟨some kind, "", true⟩

section

-- The time of the day in Tehran.
variable (tehranTime : Instant → ℕ)

/-- `panel_health_alerts_quiet_now`. -/
def panelHealthAlertsQuietNow (settings : PanelMonitorSettings) (now : Instant) : Bool :=
  match settings.quietHoursEnabled, settings.quietHoursStart, settings.quietHoursEnd with
  | true, some first, some last =>
      let time := tehranTime now
      if first = last then true
      else if first < last then decide (first ≤ time ∧ time < last)
      else decide (first ≤ time ∨ time < last)
  | _, _, _ => false

/-- `PanelHealthAlertService.decide_alert`. -/
def decideAlert (now : Instant) (panel : Option MonitoredPanel) (previousStatus : HealthState)
    (newStatus : HealthState) (consecutiveFailureCount : Option ℕ)
    (settings : PanelMonitorSettings) (statusObj : Option PanelHealthStatus) (force : Bool) :
    AlertDecision :=
  match panel with
  | none => .skip "panel_missing"
  | some panel =>
    if settings.alertsEnabled = false then .skip "alerts_disabled"
    else if panel.healthAlertEnabled = false then .skip "panel_alert_disabled"
    else if panelHealthAlertsQuietNow tehranTime settings now = true ∧ force = false then
      .skip "quiet_hours"
    else if newStatus = .ok ∧ previousStatus.Problem then
      if settings.recoveryAlertEnabled = true then .send .recovery else .skip "recovery_disabled"
    else if ¬ newStatus.Problem then .skip "healthy"
    else if force = true then .send .problem
    else
      let consecutiveFailures :=
        consecutiveFailureCount.getD ((statusObj.map (·.consecutiveFailures)).getD 0)
      if consecutiveFailures < panelAlertFailureThresholdCount panel settings then
        .skip "failure_threshold"
      else
        match statusObj.bind (·.lastAlertSentAt) with
        | some lastAlert =>
            if lastAlert + minutes (panelAlertRepeatIntervalMinutes panel settings) > now then
              .skip "repeat_interval"
            else .send .problem
        | none => .send .problem

/-- `simulate_consecutive_failure_count`. -/
def simulateConsecutiveFailureCount (previous : Option PanelHealthStatus) (status : HealthState) :
    ℕ :=
  if ¬ status.Problem then 0
  else
    match previous with
    | some previous =>
        if previous.status.Problem then previous.consecutiveFailures + 1 else 1
    | none => 1

/-! ## The check -/

/-- The row after `update_panel_health_status`. -/
def PanelHealthStatus.checked (row : PanelHealthStatus) (result : HealthResult) :
    PanelHealthStatus :=
  let row' : PanelHealthStatus :=
    { row with
      status := result.status, lastCheckedAt := some result.checkedAt,
      errorCode := result.errorCode, errorMessage := result.errorMessage,
      summary := result.summary }
  match result.status with
  | .ok =>
      { row' with
        lastOkAt := some result.checkedAt,
        lastRecoveryAt := if row.status.Problem then some result.checkedAt else row.lastRecoveryAt,
        consecutiveSuccesses := row.consecutiveSuccesses + 1, consecutiveFailures := 0 }
  | .warning | .error =>
      { row' with
        lastErrorAt := some result.checkedAt,
        consecutiveFailures := row.consecutiveFailures + 1, consecutiveSuccesses := 0 }
  | .disabled => { row' with consecutiveFailures := 0, consecutiveSuccesses := 0 }
  | .unknown => row'

/-- The row that `get_or_create` finds or creates. -/
def PanelMonitor.row (m : PanelMonitor) : PanelHealthStatus := m.healthStatus.getD {}

/-- `update_panel_health_status`. -/
def PanelMonitor.updatePanelHealthStatus (m : PanelMonitor) (result : HealthResult) :
    PanelMonitor :=
  { m with
    healthStatus := some (m.row.checked result),
    logs := ⟨result.status, result.checkedAt, result.errorCode, result.errorMessage, false⟩ ::
      m.logs }

/-- The saves of `_mark_alert_delivery`, of the row and of the log of the check under way. -/
def PanelMonitor.markAlertDelivery (m : PanelMonitor) (kind : AlertKind) (errorCode : String)
    (delivery : AlertDelivery) (now : Instant) : PanelMonitor :=
  let m := { m with messages := ⟨kind, delivery.sent, now⟩ :: m.messages }
  if delivery.sent = 0 then m
  else
    { m with
      healthStatus := m.healthStatus.map fun row =>
        match kind with
        | .recovery => { row with lastRecoveryAlertSentAt := some now }
        | .problem => { row with lastAlertSentAt := some now, lastAlertErrorCode := errorCode },
      logs := m.logs.modifyHead fun log => { log with alertSent := true } }

/-- A call of `check_panel`, with what it finds, the times it reads and what becomes of its message. -/
structure PanelCheck where
  panel : MonitoredPanel := {}
  settings : PanelMonitorSettings := {}
  result : HealthResult
  sendAlerts : Bool := true
  force : Bool := false
  dryRun : Bool := false
  noSend : Bool := false
  now : Instant
  delivery : AlertDelivery := ⟨0, 0⟩
  deliveredAt : Instant
  deriving DecidableEq, Repr

/-- The entries of the result of `check_panel`. -/
structure CheckResult where
  status : HealthState
  previousStatus : HealthState
  dryRun : Bool
  wouldSendAlert : Bool := false
  alertDecision : Option AlertKind := none
  downtimeMinutes : Option ℤ := none
  consecutiveFailureCount : ℕ := 0
  alertSkipped : Bool := false
  alertSkipReason : String := ""
  alertSentCount : ℕ := 0
  alertFailedCount : ℕ := 0
  alertSent : Bool := false
  deriving DecidableEq, Repr

def CheckResult.decided (r : CheckResult) (d : AlertDecision) : CheckResult :=
  { r with wouldSendAlert := d.wouldSend, alertDecision := d.action }

def CheckResult.skipped (r : CheckResult) (reason : String) : CheckResult :=
  { r with alertSkipped := true, alertSkipReason := reason }

def CheckResult.delivered (r : CheckResult) (delivery : AlertDelivery) : CheckResult :=
  { r with
    alertSentCount := delivery.sent, alertFailedCount := delivery.failed,
    alertSent := decide (0 < delivery.sent) }

/-- The result before any decision. -/
def PanelCheck.found (c : PanelCheck) (m : PanelMonitor) : CheckResult :=
  { status := c.result.status, previousStatus := m.row.status, dryRun := c.dryRun,
    downtimeMinutes := m.row.lastErrorAt.map fun t => max ((c.result.checkedAt - t) / minutes 1) 0 }

/-- What the dry run of a check decides. -/
def PanelCheck.simulatedDecision (c : PanelCheck) (m : PanelMonitor) : AlertDecision :=
  decideAlert tehranTime c.now (some c.panel) m.row.status c.result.status
    (some (simulateConsecutiveFailureCount m.healthStatus c.result.status)) c.settings
    m.healthStatus c.force

/-- What the check decides with the row as it has been written. -/
def PanelCheck.decision (c : PanelCheck) (m : PanelMonitor) : AlertDecision :=
  let row := m.row.checked c.result
  decideAlert tehranTime c.now (some c.panel) m.row.status c.result.status
    (some row.consecutiveFailures) c.settings (some row) c.force

/-- `PanelHealthAlertService.check_panel`. -/
def checkPanel (m : PanelMonitor) (c : PanelCheck) : PanelMonitor × CheckResult :=
  let result := c.found m
  if c.dryRun = true then
    let result := { result with
      consecutiveFailureCount := simulateConsecutiveFailureCount m.healthStatus c.result.status }
    if c.sendAlerts = true then
      let d := c.simulatedDecision tehranTime m
      let result := result.decided d
      if d.wouldSend = false then
        (m, result.skipped (if d.reason = "" then "dry_run" else d.reason))
      else (m, result)
    else (m, result)
  else
    let m' := m.updatePanelHealthStatus c.result
    let result := { result with consecutiveFailureCount := m'.row.consecutiveFailures }
    if c.sendAlerts = false then (m', result)
    else
      let d := c.decision tehranTime m
      let result := result.decided d
      if c.noSend = true ∧ d.wouldSend = true then (m', result.skipped "no_send")
      else
        match d.action with
        | some kind =>
            (m'.markAlertDelivery kind c.result.errorCode c.delivery c.deliveredAt,
              result.delivered c.delivery)
        | none =>
            if c.result.status.Problem ∨ m.row.status.Problem then (m', result.skipped d.reason)
            else (m', result)

end

end Qasedak.PanelHealth

import Qasedak.PanelHealth.Model
import Qasedak.Foundation.Run
import Mathlib.Data.List.TakeWhile

/-! The alerts of a panel against its outages: a problem alert is due after enough failing checks in
a row, and the end of an outage is told when the outage was. -/

namespace Qasedak.PanelHealth

open Foundation Store

variable {tehranTime : Instant → ℕ} {m : PanelMonitor} {c : PanelCheck} {kind : AlertKind}

/-! ## The decision -/

section

variable {now : Instant} {panel : MonitoredPanel} {previous new : HealthState} {count : ℕ}
  {settings : PanelMonitorSettings} {row : Option PanelHealthStatus} {force : Bool}

/-- The decision with its early returns taken away one by one. -/
theorem decideAlert_cases :
    let d := decideAlert tehranTime now (some panel) previous new (some count) settings row force
    (∃ reason, d = .skip reason) ∨
    (d = .send .recovery ∧ new = .ok ∧ previous.Problem ∧ settings.recoveryAlertEnabled = true) ∨
    (d = .send .problem ∧ new.Problem ∧
      (force = false →
        panelHealthAlertsQuietNow tehranTime settings now = false ∧
        panelAlertFailureThresholdCount panel settings ≤ count ∧
        ∀ t ∈ row.bind (·.lastAlertSentAt),
          t + minutes (panelAlertRepeatIntervalMinutes panel settings) ≤ now)) := by
  intro d
  by_cases halerts : settings.alertsEnabled = false
  · exact .inl ⟨"alerts_disabled", if_pos halerts⟩
  by_cases hpanel : panel.healthAlertEnabled = false
  · exact .inl ⟨"panel_alert_disabled", (if_neg halerts).trans (if_pos hpanel)⟩
  by_cases hquiet : panelHealthAlertsQuietNow tehranTime settings now = true ∧ force = false
  · exact .inl ⟨"quiet_hours", ((if_neg halerts).trans (if_neg hpanel)).trans (if_pos hquiet)⟩
  have hd : d = decideAlert tehranTime now (some panel) previous new (some count) settings row
      force := rfl
  simp only [decideAlert, if_neg halerts, if_neg hpanel, if_neg hquiet] at hd
  by_cases hok : new = .ok ∧ previous.Problem
  · rw [if_pos hok] at hd
    by_cases hrecovery : settings.recoveryAlertEnabled = true
    · rw [if_pos hrecovery] at hd
      exact .inr (.inl ⟨hd, hok.1, hok.2, hrecovery⟩)
    · rw [if_neg hrecovery] at hd
      exact .inl ⟨_, hd⟩
  rw [if_neg hok] at hd
  by_cases hnew : new.Problem
  · rw [if_neg (not_not.mpr hnew)] at hd
    cases hforce : force with
    | true =>
        rw [if_pos hforce] at hd
        exact .inr (.inr ⟨hd, hnew, fun h => absurd h (by decide)⟩)
    | false =>
        rw [if_neg (by simp [hforce])] at hd
        by_cases hcount : count < panelAlertFailureThresholdCount panel settings
        · simp only [Option.getD_some, if_pos hcount] at hd
          exact .inl ⟨_, hd⟩
        · simp only [Option.getD_some, if_neg hcount] at hd
          have hloud : panelHealthAlertsQuietNow tehranTime settings now = false := by
            simpa [hforce] using hquiet
          cases hlast : row.bind (·.lastAlertSentAt) with
          | none =>
              simp only [hlast] at hd
              refine .inr (.inr ⟨hd, hnew, fun _ => ⟨hloud, Nat.le_of_not_lt hcount, ?_⟩⟩)
              intro t ht
              cases ht
          | some last =>
              simp only [hlast] at hd
              split at hd
              · exact .inl ⟨_, hd⟩
              · rename_i hinterval
                refine .inr (.inr ⟨hd, hnew, fun _ => ⟨hloud, Nat.le_of_not_lt hcount, ?_⟩⟩)
                intro t ht
                obtain rfl := Option.mem_some.mp ht
                exact Int.not_lt.mp hinterval
  · rw [if_pos hnew] at hd
    exact .inl ⟨_, hd⟩

theorem wouldSend_decideAlert :
    (decideAlert tehranTime now (some panel) previous new (some count) settings row
      force).wouldSend =
    (decideAlert tehranTime now (some panel) previous new (some count) settings row
      force).action.isSome := by
  obtain ⟨reason, h⟩ | ⟨h, -⟩ | ⟨h, -⟩ := @decideAlert_cases tehranTime now panel
    previous new count settings row force
  · rw [h]
    rfl
  · rw [h]
    rfl
  · rw [h]
    rfl

/-- A panel that is well again is told of with the alerts and the recovery alerts switched on. -/
theorem action_decideAlert_recovery :
    (decideAlert tehranTime now (some panel) previous new (some count) settings row
      force).action = some .recovery ↔
    settings.alertsEnabled = true ∧ panel.healthAlertEnabled = true ∧
      (panelHealthAlertsQuietNow tehranTime settings now = true → force = true) ∧
      settings.recoveryAlertEnabled = true ∧ new = .ok ∧ previous.Problem := by
  constructor
  · intro haction
    by_cases halerts : settings.alertsEnabled = false
    · simp [decideAlert, halerts, AlertDecision.skip] at haction
    by_cases hpanel : panel.healthAlertEnabled = false
    · simp [decideAlert, halerts, hpanel, AlertDecision.skip] at haction
    by_cases hquiet : panelHealthAlertsQuietNow tehranTime settings now = true ∧ force = false
    · simp [decideAlert, halerts, hpanel, hquiet, AlertDecision.skip] at haction
    have hforce : panelHealthAlertsQuietNow tehranTime settings now = true → force = true := by
      intro h
      by_contra hf
      exact hquiet ⟨h, by simpa using hf⟩
    refine ⟨by simpa using halerts, by simpa using hpanel, hforce, ?_⟩
    obtain ⟨reason, h⟩ | ⟨-, hok, hprevious, hrecovery⟩ | ⟨h, -⟩ :=
      @decideAlert_cases tehranTime now panel previous new count settings row force
    · rw [h] at haction
      cases haction
    · exact ⟨hrecovery, hok, hprevious⟩
    · rw [h] at haction
      cases haction
  · rintro ⟨halerts, hpanel, hquiet, hrecovery, hok, hprevious⟩
    have hloud : ¬ (panelHealthAlertsQuietNow tehranTime settings now = true ∧ force = false) := by
      rintro ⟨h, hf⟩
      exact absurd (hquiet h) (by simp [hf])
    simp only [decideAlert, halerts, hpanel, if_neg hloud, hok, hprevious, hrecovery]
    rfl

/-- Two decisions that count the same failures and know of the same last alert. -/
theorem decideAlert_congr {row' : Option PanelHealthStatus} {count' : ℕ}
    (hcount : new.Problem → count' = count)
    (hlast : row'.bind (·.lastAlertSentAt) = row.bind (·.lastAlertSentAt)) :
    decideAlert tehranTime now (some panel) previous new (some count') settings row' force =
      decideAlert tehranTime now (some panel) previous new (some count) settings row force := by
  by_cases hnew : new.Problem
  · simp only [decideAlert, hcount hnew, hlast, Option.getD_some]
  · simp only [decideAlert, hnew, not_false_eq_true, if_true]

end

/-! ## What a check does -/

/-- What the check sends to the admins. -/
def PanelCheck.sentKind (tehranTime : Instant → ℕ) (c : PanelCheck) (m : PanelMonitor) :
    Option AlertKind :=
  if c.dryRun = true ∨ c.sendAlerts = false ∨ c.noSend = true then none
  else (c.decision tehranTime m).action

/-- The state after a check. -/
def PanelMonitor.check (tehranTime : Instant → ℕ) (m : PanelMonitor) (c : PanelCheck) :
    PanelMonitor :=
  (checkPanel tehranTime m c).1

theorem check_dryRun (h : c.dryRun = true) : m.check tehranTime c = m := by
  simp only [PanelMonitor.check, checkPanel, h, if_true]
  by_cases hsend : c.sendAlerts = true
  · rw [if_pos hsend]
    split
    · rfl
    · rfl
  · rw [if_neg hsend]

/-- A check that is not a dry run writes the row and the log, and then what became of its message. -/
theorem check_real (h : c.dryRun = false) :
    m.check tehranTime c =
      match c.sentKind tehranTime m with
      | some kind =>
          (m.updatePanelHealthStatus c.result).markAlertDelivery kind c.result.errorCode c.delivery
            c.deliveredAt
      | none => m.updatePanelHealthStatus c.result := by
  have hwould : (c.decision tehranTime m).wouldSend = (c.decision tehranTime m).action.isSome :=
    wouldSend_decideAlert
  simp only [PanelMonitor.check, checkPanel, PanelCheck.sentKind, h, Bool.false_eq_true, if_false,
    false_or]
  by_cases hsend : c.sendAlerts = false
  · simp only [hsend, if_true, true_or]
  · simp only [hsend]
    cases haction : (c.decision tehranTime m).action with
    | none =>
        by_cases hproblem : c.result.status.Problem ∨ m.row.status.Problem
        · simp [hwould, haction, hproblem]
        · simp [hwould, haction, hproblem]
    | some kind =>
        by_cases hno : c.noSend = true
        · simp [hwould, haction, hno]
        · simp [hwould, haction, hno]

theorem row_updatePanelHealthStatus (result : HealthResult) :
    (m.updatePanelHealthStatus result).row = m.row.checked result := rfl

@[simp] theorem checked_status (row : PanelHealthStatus) (result : HealthResult) :
    (row.checked result).status = result.status := by
  cases h : result.status <;> simp only [PanelHealthStatus.checked, h]

@[simp] theorem checked_lastAlertSentAt (row : PanelHealthStatus) (result : HealthResult) :
    (row.checked result).lastAlertSentAt = row.lastAlertSentAt := by
  cases h : result.status <;> simp only [PanelHealthStatus.checked, h]

theorem checked_consecutiveFailures (row : PanelHealthStatus) (result : HealthResult)
    (h : result.status.Problem) :
    (row.checked result).consecutiveFailures = row.consecutiveFailures + 1 := by
  rcases h with h | h
  · simp only [PanelHealthStatus.checked, h]
  · simp only [PanelHealthStatus.checked, h]

@[simp] theorem messages_markAlertDelivery (errorCode : String) (delivery : AlertDelivery)
    (now : Instant) :
    (m.markAlertDelivery kind errorCode delivery now).messages =
      ⟨kind, delivery.sent, now⟩ :: m.messages := by
  simp only [PanelMonitor.markAlertDelivery]
  split
  · rfl
  · rfl

/-- What a message leaves of the row is its status and its counters. -/
theorem row_markAlertDelivery (errorCode : String) (delivery : AlertDelivery) (now : Instant) :
    let row := (m.markAlertDelivery kind errorCode delivery now).row
    row.status = m.row.status ∧ row.consecutiveFailures = m.row.consecutiveFailures ∧
      row.lastAlertSentAt =
        if kind = .problem ∧ 0 < delivery.sent ∧ m.healthStatus.isSome then some now
        else m.row.lastAlertSentAt := by
  simp only [PanelMonitor.markAlertDelivery, PanelMonitor.row]
  by_cases hsent : delivery.sent = 0
  · simp [hsent]
  · have hpos : 0 < delivery.sent := Nat.pos_of_ne_zero hsent
    cases hrow : m.healthStatus with
    | none => simp [hsent]
    | some row => cases kind <;> simp [hsent, hpos]

theorem logs_markAlertDelivery (errorCode : String) (delivery : AlertDelivery) (now : Instant) :
    (m.markAlertDelivery kind errorCode delivery now).logs =
      if delivery.sent = 0 then m.logs
      else m.logs.modifyHead fun log => { log with alertSent := true } := by
  simp only [PanelMonitor.markAlertDelivery]
  split
  · rfl
  · rfl

/-! ## Outages -/

/-- The failing checks in a row that the log ends with. -/
def failuresInRow (logs : List PanelHealthCheckLog) : ℕ :=
  (logs.takeWhile fun log => decide log.status.Problem).length

/-- Since the panel was last well, a problem alert has reached an admin. -/
def Announced (logs : List PanelHealthCheckLog) : Prop :=
  ∃ log ∈ logs.takeWhile fun log => decide (log.status ≠ .ok),
    log.status.Problem ∧ log.alertSent = true

instance (logs : List PanelHealthCheckLog) : Decidable (Announced logs) :=
  inferInstanceAs (Decidable (∃ log ∈ _, _))

/-- The time of the last problem alert that reached an admin. -/
def lastDelivered (messages : List AdminMessage) : Option Instant :=
  (messages.find? fun x => decide (x.kind = .problem ∧ 0 < x.sent)).map (·.sentAt)

section

variable (tehranTime m c)

/-- The check sends a message of a kind. -/
def Sends (kind : AlertKind) : Prop :=
  (m.check tehranTime c).messages = ⟨kind, c.delivery.sent, c.deliveredAt⟩ :: m.messages

/-- A message of a kind reaches an admin by the check. -/
def Delivers (kind : AlertKind) : Prop := Sends tehranTime m c kind ∧ 0 < c.delivery.sent

/-- The alerts of a check follow the outages of the panel. -/
structure FollowsOutages : Prop where
  problem : c.force = false → Sends tehranTime m c .problem →
    panelAlertFailureThresholdCount c.panel c.settings ≤
        failuresInRow (m.check tehranTime c).logs ∧
      panelHealthAlertsQuietNow tehranTime c.settings c.now = false ∧
      ∀ t ∈ lastDelivered m.messages,
        t + minutes (panelAlertRepeatIntervalMinutes c.panel c.settings) ≤ c.now
  recovery : c.dryRun = false →
    (Delivers tehranTime m c .recovery ↔ c.result.status = .ok ∧ Announced m.logs)
  dryRun : (checkPanel tehranTime m { c with dryRun := true }).2.alertDecision =
      (checkPanel tehranTime m { c with dryRun := false }).2.alertDecision ∧
    (checkPanel tehranTime m { c with dryRun := true }).2.wouldSendAlert =
      (checkPanel tehranTime m { c with dryRun := false }).2.wouldSendAlert

/-- Were it due, a recovery alert of the check would reach an admin. -/
def RecoveryReaches : Prop :=
  c.sendAlerts = true ∧ c.noSend = false ∧ c.settings.alertsEnabled = true ∧
    c.panel.healthAlertEnabled = true ∧ c.settings.recoveryAlertEnabled = true ∧
    (panelHealthAlertsQuietNow tehranTime c.settings c.now = true → c.force = true) ∧
    0 < c.delivery.sent

instance : Decidable (RecoveryReaches tehranTime c) := inferInstanceAs (Decidable (_ ∧ _))

/-- A check that fails anew finds no failures counted, and one that finds the panel well comes in an
outage that was announced just when a recovery alert is let through to an admin. -/
structure Told : Prop where
  counted : c.result.status.Problem → ¬ m.row.status.Problem → m.row.consecutiveFailures = 0
  recovery : c.dryRun = false → c.result.status = .ok →
    (Announced m.logs ↔ m.row.status.Problem ∧ RecoveryReaches tehranTime c)

end

/-! ## One check -/

theorem sends_iff : Sends tehranTime m c kind ↔
    c.dryRun = false ∧ c.sentKind tehranTime m = some kind := by
  have hne : ∀ x : AdminMessage, m.messages ≠ x :: m.messages := by
    intro x h
    exact absurd (congrArg List.length h) (by simp)
  constructor
  · intro h
    cases hdry : c.dryRun with
    | true =>
        rw [Sends, check_dryRun hdry] at h
        exact absurd h (hne _)
    | false =>
        rw [Sends, check_real hdry] at h
        cases hkind : c.sentKind tehranTime m with
        | none =>
            rw [hkind] at h
            exact absurd h (hne _)
        | some kind' =>
            simp only [hkind, messages_markAlertDelivery] at h
            have hhead := (List.cons.inj h).1
            exact ⟨rfl, congrArg some (AdminMessage.mk.inj hhead).1⟩
  · rintro ⟨hdry, hkind⟩
    rw [Sends, check_real hdry]
    simp only [hkind, messages_markAlertDelivery]
    rfl

theorem sentKind_eq_some : c.sentKind tehranTime m = some kind ↔
    c.dryRun = false ∧ c.sendAlerts = true ∧ c.noSend = false ∧
      (c.decision tehranTime m).action = some kind := by
  simp only [PanelCheck.sentKind]
  split
  · rename_i h
    constructor
    · intro hnone
      cases hnone
    · intro hall
      simp [hall.1, hall.2.1, hall.2.2.1] at h
  · rename_i h
    have hflags : c.dryRun = false ∧ c.sendAlerts = true ∧ c.noSend = false := by
      simpa [not_or] using h
    constructor
    · intro haction
      exact ⟨hflags.1, hflags.2.1, hflags.2.2, haction⟩
    · intro hall
      exact hall.2.2.2

/-- A recovery alert is delivered for a panel found well after it was failing. -/
theorem delivers_recovery (hdry : c.dryRun = false) :
    Delivers tehranTime m c .recovery ↔
      c.result.status = .ok ∧ m.row.status.Problem ∧ RecoveryReaches tehranTime c := by
  rw [Delivers, sends_iff, sentKind_eq_some, PanelCheck.decision, action_decideAlert_recovery,
    RecoveryReaches]
  constructor
  · rintro ⟨⟨_, _, hsend, hno, halerts, hpanel, hquiet, hrecovery, hok, hprevious⟩, hsent⟩
    exact ⟨hok, hprevious, hsend, hno, halerts, hpanel, hrecovery, hquiet, hsent⟩
  · rintro ⟨hok, hprevious, hsend, hno, halerts, hpanel, hrecovery, hquiet, hsent⟩
    exact ⟨⟨hdry, hdry, hsend, hno, halerts, hpanel, hquiet, hrecovery, hok, hprevious⟩, hsent⟩

/-- The dry run counts the failures that the check would count. -/
theorem simulatedDecision_eq
    (h : c.result.status.Problem → ¬ m.row.status.Problem → m.row.consecutiveFailures = 0) :
    c.simulatedDecision tehranTime m = c.decision tehranTime m := by
  refine decideAlert_congr ?_ ?_
  · intro hproblem
    rw [checked_consecutiveFailures _ _ hproblem]
    simp only [simulateConsecutiveFailureCount, if_neg (not_not.mpr hproblem)]
    cases hrow : m.healthStatus with
    | none => simp [PanelMonitor.row, hrow]
    | some row =>
        have hm : m.row = row := by simp [PanelMonitor.row, hrow]
        rw [hm] at h ⊢
        by_cases hprevious : row.status.Problem
        · simp [hprevious]
        · simp [hprevious, h hproblem hprevious]
  · cases hrow : m.healthStatus with
    | none => simp [PanelMonitor.row, hrow]
    | some row => simp [PanelMonitor.row, hrow]

theorem decision_of_dryRun (hdry : c.dryRun = true) :
    (checkPanel tehranTime m c).2.alertDecision =
      (if c.sendAlerts = true then (c.simulatedDecision tehranTime m).action else none) ∧
    (checkPanel tehranTime m c).2.wouldSendAlert =
      (if c.sendAlerts = true then (c.simulatedDecision tehranTime m).wouldSend else false) := by
  by_cases hsend : c.sendAlerts = true
  · simp only [checkPanel, hdry, hsend, if_true]
    split
    · exact ⟨rfl, rfl⟩
    · exact ⟨rfl, rfl⟩
  · simp only [checkPanel, hdry, hsend, if_true]
    exact ⟨rfl, rfl⟩

theorem decision_of_real (hdry : c.dryRun = false) :
    (checkPanel tehranTime m c).2.alertDecision =
      (if c.sendAlerts = true then (c.decision tehranTime m).action else none) ∧
    (checkPanel tehranTime m c).2.wouldSendAlert =
      (if c.sendAlerts = true then (c.decision tehranTime m).wouldSend else false) := by
  cases hsend : c.sendAlerts with
  | false =>
      simp only [checkPanel, hdry, hsend, Bool.false_eq_true, if_false, if_true]
      exact ⟨rfl, rfl⟩
  | true =>
      simp only [checkPanel, hdry, hsend, Bool.false_eq_true, Bool.true_eq_false, if_false, if_true]
      by_cases hno : c.noSend = true ∧ (c.decision tehranTime m).wouldSend = true
      · simp only [if_pos hno]
        exact ⟨rfl, rfl⟩
      · simp only [if_neg hno]
        cases haction : (c.decision tehranTime m).action with
        | some kind => exact ⟨haction, rfl⟩
        | none =>
            by_cases hproblem : c.result.status.Problem ∨ m.row.status.Problem
            · simp only [if_pos hproblem]
              exact ⟨haction, rfl⟩
            · simp only [if_neg hproblem]
              exact ⟨haction, rfl⟩

/-! ## Runs of checks -/

/-- What the log and the messages say of the row. -/
structure Recorded (m : PanelMonitor) : Prop where
  lastAlert : m.row.lastAlertSentAt = lastDelivered m.messages
  failing : m.row.status.Problem → m.row.consecutiveFailures = failuresInRow m.logs
  other : ¬ m.row.status.Problem → failuresInRow m.logs = 0

theorem recorded_empty : Recorded {} where
  lastAlert := rfl
  failing := fun h => absurd h (by decide)
  other := fun _ => rfl

theorem failuresInRow_cons (log : PanelHealthCheckLog) (logs : List PanelHealthCheckLog) :
    failuresInRow (log :: logs) = if log.status.Problem then failuresInRow logs + 1 else 0 := by
  by_cases h : log.status.Problem
  · simp [failuresInRow, h]
  · simp [failuresInRow, h]

/-- A row and its log after a check that sends nothing. -/
theorem Recorded.update (h : Recorded m) (result : HealthResult)
    (hcounted : result.status.Problem → ¬ m.row.status.Problem → m.row.consecutiveFailures = 0) :
    Recorded (m.updatePanelHealthStatus result) where
  lastAlert := by
    rw [row_updatePanelHealthStatus, checked_lastAlertSentAt, h.lastAlert]
    rfl
  failing := by
    rw [row_updatePanelHealthStatus, checked_status]
    intro hproblem
    rw [checked_consecutiveFailures _ _ hproblem, PanelMonitor.updatePanelHealthStatus,
      failuresInRow_cons, if_pos hproblem]
    by_cases hprevious : m.row.status.Problem
    · rw [h.failing hprevious]
    · rw [hcounted hproblem hprevious, h.other hprevious]
  other := by
    rw [row_updatePanelHealthStatus, checked_status]
    intro hproblem
    rw [PanelMonitor.updatePanelHealthStatus, failuresInRow_cons, if_neg hproblem]

theorem failuresInRow_modifyHead (logs : List PanelHealthCheckLog) :
    failuresInRow (logs.modifyHead fun log => { log with alertSent := true }) =
      failuresInRow logs := by
  cases logs with
  | nil => rfl
  | cons log logs => rw [List.modifyHead_cons, failuresInRow_cons, failuresInRow_cons]

theorem Recorded.markAlertDelivery (h : Recorded m) (hrow : m.healthStatus.isSome)
    (errorCode : String) (delivery : AlertDelivery) (now : Instant) :
    Recorded (m.markAlertDelivery kind errorCode delivery now) := by
  obtain ⟨hstatus, hfailures, hlast⟩ :=
    @row_markAlertDelivery m kind errorCode delivery now
  have hlogs : failuresInRow (m.markAlertDelivery kind errorCode delivery now).logs =
      failuresInRow m.logs := by
    rw [logs_markAlertDelivery]
    split
    · rfl
    · exact failuresInRow_modifyHead m.logs
  refine ⟨?_, ?_, ?_⟩
  · rw [hlast, messages_markAlertDelivery, lastDelivered, List.find?_cons]
    by_cases hkind : kind = .problem ∧ 0 < delivery.sent
    · simp [hkind, hrow]
    · rw [if_neg (fun hall => hkind ⟨hall.1, hall.2.1⟩), h.lastAlert]
      simp only [decide_eq_false hkind]
      rfl
  · rw [hstatus, hfailures, hlogs]
    exact h.failing
  · rw [hstatus, hlogs]
    exact h.other

theorem Recorded.check (h : Recorded m) (htold : Told tehranTime m c) :
    Recorded (m.check tehranTime c) := by
  cases hdry : c.dryRun with
  | true =>
      rw [check_dryRun hdry]
      exact h
  | false =>
      have hupdated := h.update c.result htold.counted
      rw [check_real hdry]
      split
      · exact hupdated.markAlertDelivery rfl _ _ _
      · exact hupdated

/-- The failures that a problem alert is sent for, and how long after the alert before. -/
theorem problem_of_sends (h : Recorded m) (htold : Told tehranTime m c) (hforce : c.force = false)
    (hsends : Sends tehranTime m c .problem) :
    panelAlertFailureThresholdCount c.panel c.settings ≤
        failuresInRow (m.check tehranTime c).logs ∧
      panelHealthAlertsQuietNow tehranTime c.settings c.now = false ∧
      ∀ t ∈ lastDelivered m.messages,
        t + minutes (panelAlertRepeatIntervalMinutes c.panel c.settings) ≤ c.now := by
  obtain ⟨hdry, hkind⟩ := sends_iff.mp hsends
  have haction := (sentKind_eq_some.mp hkind).2.2.2
  have hafter := h.check htold
  have hrow : (m.check tehranTime c).row.status = c.result.status ∧
      (m.check tehranTime c).row.consecutiveFailures =
        (m.row.checked c.result).consecutiveFailures := by
    rw [check_real hdry, hkind]
    obtain ⟨hstatus, hfailures, -⟩ := @row_markAlertDelivery
      (m.updatePanelHealthStatus c.result) .problem c.result.errorCode c.delivery
      c.deliveredAt
    exact ⟨hstatus.trans (checked_status _ _), hfailures⟩
  obtain ⟨reason, hd⟩ | ⟨hd, -⟩ | ⟨-, hnew, hdue⟩ := @decideAlert_cases tehranTime c.now c.panel
    m.row.status c.result.status (m.row.checked c.result).consecutiveFailures c.settings
    (some (m.row.checked c.result)) c.force
  · rw [PanelCheck.decision, hd] at haction
    cases haction
  · rw [PanelCheck.decision, hd] at haction
    cases haction
  · obtain ⟨hquiet, hthreshold, hlast⟩ := hdue hforce
    have hcount := hafter.failing (by rw [hrow.1]; exact hnew)
    rw [hrow.2] at hcount
    refine ⟨hcount ▸ hthreshold, hquiet, ?_⟩
    intro t ht
    refine hlast t ?_
    rw [Option.bind_some, checked_lastAlertSentAt, h.lastAlert]
    exact ht

theorem followsOutages_of_told (h : Recorded m) (htold : Told tehranTime m c) :
    FollowsOutages tehranTime m c where
  problem := problem_of_sends h htold
  recovery := by
    intro hdry
    rw [delivers_recovery hdry]
    constructor
    · rintro ⟨hok, hprevious, hreaches⟩
      exact ⟨hok, (htold.recovery hdry hok).mpr ⟨hprevious, hreaches⟩⟩
    · rintro ⟨hok, hannounced⟩
      exact ⟨hok, (htold.recovery hdry hok).mp hannounced⟩
  dryRun := by
    obtain ⟨hsimulated, hwould⟩ :=
      @decision_of_dryRun tehranTime m { c with dryRun := true } rfl
    obtain ⟨hreal, hwould'⟩ :=
      @decision_of_real tehranTime m { c with dryRun := false } rfl
    have hdecision := @simulatedDecision_eq tehranTime _ _ htold.counted
    have hs : PanelCheck.simulatedDecision tehranTime { c with dryRun := true } m =
        PanelCheck.decision tehranTime { c with dryRun := false } m := hdecision
    rw [hsimulated, hreal, hwould, hwould', hs]
    exact ⟨rfl, rfl⟩

/-- A check a minute after the start of the hour, whose message reaches an admin. -/
def checkAt (n : ℕ) (status : HealthState) (threshold : ℕ) : PanelCheck :=
  { settings := { failureThresholdCount := threshold }
    result := { status := status, checkedAt := minutes n }
    now := minutes n
    delivery := ⟨1, 0⟩
    deliveredAt := minutes n }

end Qasedak.PanelHealth

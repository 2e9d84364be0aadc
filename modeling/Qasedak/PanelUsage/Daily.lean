import Mathlib
import Qasedak.Store.Model

/-! `store/panel_usage_services.py`: the traffic of a panel on one day, from the snapshots of its
counters. -/

namespace Qasedak.PanelUsage

open Store

/-- `PanelUsageSnapshot.Status`. -/
inductive SnapshotStatus where
  | ok
  | partly
  | failed
  deriving DecidableEq, Repr

structure UsageSnapshot where
  pk : ℕ
  capturedAt : Instant
  status : SnapshotStatus := .ok
  totalUploadBytes : ℕ := 0
  totalDownloadBytes : ℕ := 0
  totalUsedBytes : ℕ
  clientsCount : ℕ := 0
  deriving DecidableEq, Repr

/-- The days of a time zone: where a day starts, and the instants that are the tolerance before
and after that by the clock of the zone. -/
structure Calendar where
  midnight : ℤ → Instant
  earliest : ℤ → Instant
  latest : ℤ → Instant
  midnight_le : ∀ d, midnight d ≤ midnight (d + 1)
  earliest_le : ∀ d, earliest d ≤ midnight d
  le_latest : ∀ d, midnight d ≤ latest d

/-- `SNAPSHOT_BOUNDARY_TOLERANCE`, in minutes. -/
def boundaryTolerance : Instant := minutes 180

/-- A zone that is always the same number of minutes ahead. -/
def Calendar.fixed (offset : ℤ) : Calendar where
  midnight d := minutes (d * 1440 - offset)
  earliest d := minutes (d * 1440 - offset) - boundaryTolerance
  latest d := minutes (d * 1440 - offset) + boundaryTolerance
  midnight_le d := by
    have h : (d * 1440 - offset) * 60000000 ≤ ((d + 1) * 1440 - offset) * 60000000 := by omega
    exact h
  earliest_le d := by
    have h : (d * 1440 - offset) * 60000000 - 180 * 60000000 ≤ (d * 1440 - offset) * 60000000 := by
      omega
    exact h
  le_latest d := by
    have h : (d * 1440 - offset) * 60000000 ≤ (d * 1440 - offset) * 60000000 + 180 * 60000000 := by
      omega
    exact h

/-- `_valid_snapshots`. -/
def validSnapshots (rows : List UsageSnapshot) : List UsageSnapshot :=
  rows.filter fun s => s.status = .ok ∨ s.status = .partly

/-- `.order_by("-captured_at").first()`. -/
def latestOf (rows : List UsageSnapshot) : Option UsageSnapshot := rows.argmax (·.capturedAt)

/-- `.order_by("captured_at").first()`. -/
def earliestOf (rows : List UsageSnapshot) : Option UsageSnapshot := rows.argmin (·.capturedAt)

variable (c : Calendar) (rows : List UsageSnapshot) (d : ℤ)

/-- The last snapshot up to a midnight, within the tolerance. -/
def lastBefore : Option UsageSnapshot :=
  latestOf ((validSnapshots rows).filter fun s =>
    s.capturedAt ≤ c.midnight d ∧ c.earliest d ≤ s.capturedAt)

/-- The first snapshot from a midnight on, within the tolerance. -/
def firstAfter : Option UsageSnapshot :=
  earliestOf ((validSnapshots rows).filter fun s =>
    c.midnight d ≤ s.capturedAt ∧ s.capturedAt ≤ c.latest d)

def insideDay : List UsageSnapshot :=
  (validSnapshots rows).filter fun s =>
    c.midnight d ≤ s.capturedAt ∧ s.capturedAt < c.midnight (d + 1)

/-- `_snapshot_distance`. -/
def snapshotDistance (s : UsageSnapshot) (target : Instant) : ℕ := (s.capturedAt - target).natAbs

/-- The snapshot near a midnight: of two the nearer, and the one before it when they are as near. -/
def nearestTo : Option UsageSnapshot :=
  match lastBefore c rows d, firstAfter c rows d with
  | some before, some after =>
      if snapshotDistance before (c.midnight d) ≤ snapshotDistance after (c.midnight d) then
        some before
      else some after
  | some before, none => some before
  | none, after => after

/-- `_nearest_start_snapshot`; the flag stands for `near_boundary`. -/
def nearestStartSnapshot : Option UsageSnapshot × Bool :=
  match nearestTo c rows d with
  | some s => (some s, true)
  | none => (earliestOf (insideDay c rows d), false)

/-- `_nearest_end_snapshot`. -/
def nearestEndSnapshot : Option UsageSnapshot × Bool :=
  match lastBefore c rows (d + 1) with
  | some s => (some s, true)
  | none => (latestOf (insideDay c rows d), false)

/-- `PanelDailyUsage.DataQuality`. -/
inductive DataQuality where
  | complete
  | partly
  | insufficient
  deriving DecidableEq, Repr

/-- `Store.PanelUsageActiveUserMethod`. -/
inductive ActiveUserMethod where
  | trafficDelta
  | onlineApi
  | mixed
  deriving DecidableEq, Repr

/-- What is known of the clients of the panel: whether there are rows of a capture, and whether
the online state was known between two instants. -/
structure ClientData where
  method : ActiveUserMethod := .mixed
  hasClients : Instant → Bool
  hasOnline : Instant → Instant → Bool

structure DailyUsage where
  uploadBytes : ℤ := 0
  downloadBytes : ℤ := 0
  usedBytes : ℤ := 0
  start : Option UsageSnapshot
  stop : Option UsageSnapshot
  dataQuality : DataQuality
  warnings : List String
  deriving DecidableEq, Repr

def delta (f : UsageSnapshot → ℕ) (start stop : UsageSnapshot) : ℤ := (f stop : ℤ) - f start

def hasNegativeDelta (start stop : UsageSnapshot) : Bool :=
  delta (·.totalUploadBytes) start stop < 0 || delta (·.totalDownloadBytes) start stop < 0 ||
    delta (·.totalUsedBytes) start stop < 0

/-- The warnings of a day with two snapshots. -/
def usageWarnings (clients : ClientData) (start stop : UsageSnapshot)
    (nearStart nearStop : Bool) : List String :=
  (if start.status ≠ .ok ∨ stop.status ≠ .ok then ["یکی از snapshotهای مبنا partial است."] else []) ++
    (if nearStart then []
      else ["snapshot دقیق ابتدای روز پیدا نشد و اولین snapshot داخل روز استفاده شد."]) ++
    (if nearStop then []
      else ["snapshot نزدیک پایان روز پیدا نشد و آخرین snapshot داخل روز استفاده شد."]) ++
    (if hasNegativeDelta start stop then
      ["delta مصرف منفی است؛ احتمال reset آمار X-UI یا تغییر پنل وجود دارد."] else []) ++
    (if clients.method ≠ .onlineApi ∧ stop.clientsCount ≠ 0 ∧
        ¬ clients.hasClients stop.capturedAt then
      ["snapshotهای client برای محاسبه active users کافی نیست."] else []) ++
    if clients.method ≠ .trafficDelta ∧ ¬ clients.hasOnline (c.midnight d) (c.midnight (d + 1)) then
      ["داده online در snapshotهای این روز موجود نیست."] else []

/-- A delta, or zero where some counter went backwards and it is negative. -/
def usageDelta (f : UsageSnapshot → ℕ) (start stop : UsageSnapshot) : ℤ :=
  if hasNegativeDelta start stop then max (delta f start stop) 0 else delta f start stop

/-- `calculate_panel_daily_usage`, without the counts of users. -/
def calculatePanelDailyUsage (clients : ClientData) : DailyUsage :=
  let (start, nearStart) := nearestStartSnapshot c rows d
  let (stop, nearStop) := nearestEndSnapshot c rows d
  match start, stop with
  | some s, some e =>
      if s.pk = e.pk ∨ e.capturedAt ≤ s.capturedAt then
        { start := start
          stop := stop
          dataQuality := .insufficient
          warnings := ["snapshot ابتدا و انتهای روز یکسان یا نامعتبر است."] }
      else
        let warnings := usageWarnings c d clients s e nearStart nearStop
        { uploadBytes := usageDelta (·.totalUploadBytes) s e
          downloadBytes := usageDelta (·.totalDownloadBytes) s e
          usedBytes := usageDelta (·.totalUsedBytes) s e
          start := start
          stop := stop
          dataQuality := if warnings = [] then .complete else .partly
          warnings := warnings }
  | _, _ =>
      { start := start
        stop := stop
        dataQuality := .insufficient
        warnings := ["snapshot کافی برای محاسبه مصرف روزانه وجود ندارد."] }

/-- The snapshots between which a day counts its traffic. -/
def DailyUsage.interval (u : DailyUsage) : Option (UsageSnapshot × UsageSnapshot) :=
  match u.dataQuality, u.start, u.stop with
  | .insufficient, _, _ => none
  | _, some s, some e => some (s, e)
  | _, _, _ => none

end Qasedak.PanelUsage

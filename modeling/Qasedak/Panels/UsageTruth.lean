import Mathlib
import Qasedak.Panels.XuiApi

/-! `sync_vpn_client_stats`: what the answer of a panel makes of the usage, the limit, the expiry
and the status of a local client. -/

namespace Qasedak.Panels

open Foundation Store

/-! ## Answers -/

/-- The `obj` of the traffic endpoint. A key that is missing or null is none; of `enable` the
inner none is a null. -/
structure TrafficRecord where
  up : Option ℕ := none
  down : Option ℕ := none
  total : Option ℕ := none
  totalGB : Option ℕ := none
  expiryTime : Option ℤ := none
  enable : Option (Option Bool) := none
  /-- `has_usage_stats`: one of the keys of a usage is there. -/
  hasUsageStats : Bool := false
  deriving DecidableEq, Repr

/-- A client in the settings of the inbound. -/
structure ClientRow where
  id : Option String := none
  email : Option String := none
  up : Option ℕ := none
  down : Option ℕ := none
  totalGB : Option ℕ := none
  expiryTime : Option ℤ := none
  enable : Option (Option Bool) := none
  hasUsageStats : Bool := false
  deriving DecidableEq, Repr

/-- What the endpoints come to. -/
inductive UsageAnswer where
  /-- The inbound has no panel that can be asked. -/
  | refused
  /-- A request or a value of its answer raises. -/
  | failed
  /-- The traffic is none where `obj` is null or empty. -/
  | read (traffic : Option TrafficRecord) (clients : List ClientRow) (online : List String)

/-- `raw` of the statistics. -/
structure RawStats where
  traffic : Option TrafficRecord := none
  client : Option ClientRow := none
  deriving DecidableEq, Repr

/-- A client with the fields that only the synchronisation writes. -/
structure UsageClient extends VPNClient where
  usedUploadBytes : ℕ := 0
  usedDownloadBytes : ℕ := 0
  lastOnlineAt : Option Instant := none
  lastSyncedAt : Option Instant := none
  xuiRaw : RawStats := {}
  deriving DecidableEq, Repr

/-- `XUIClientStats`. -/
structure XUIClientStats where
  totalTrafficBytes : ℕ := 0
  usedUploadBytes : ℕ := 0
  usedDownloadBytes : ℕ := 0
  usedTrafficBytes : ℕ := 0
  remainingTrafficBytes : ℕ := 0
  expiryAt : Option Instant := none
  lastOnlineAt : Option Instant := none
  isEnabled : Bool := false
  isExpired : Bool := false
  panelAvailable : Bool := true
  raw : RawStats := {}
  deriving DecidableEq, Repr

/-! ## Statistics -/

/-- `a or b` of numbers that may be missing. -/
def orNumber (a b : Option ℕ) : Option ℕ := if a.getD 0 = 0 then b else a

/-- The client of the settings that is taken for the service: by its uuid or by its e-mail. -/
def RowOf (c : UsageClient) (row : ClientRow) : Prop :=
  row.id = some (c.uuid.getD "None") ∨ row.email = some (serviceEmail c.toVPNClient)

instance (c : UsageClient) (row : ClientRow) : Decidable (RowOf c row) :=
  inferInstanceAs (Decidable (_ ∨ _))

def panelClient (c : UsageClient) (clients : List ClientRow) : Option ClientRow :=
  clients.find? fun row => RowOf c row

/-- `traffic.get("expiryTime") or panel_client.get("expiryTime")`, as a date. -/
def statsExpiry (raw : RawStats) : Option Instant :=
  let traffic := (raw.traffic.bind (·.expiryTime)).getD 0
  parseXuiDatetime (if traffic = 0 then (raw.client.bind (·.expiryTime)).getD 0 else traffic)

/-- `bool(traffic.get("enable", panel_client.get("enable", False)))`. -/
def statsEnabled (raw : RawStats) : Bool :=
  (((raw.traffic.bind (·.enable)).orElse fun _ => raw.client.bind (·.enable)).getD none).getD false

/-- The first limit that is not zero: of the traffic, of the client, of the local row. -/
def statsTotal (raw : RawStats) (local_ : ℕ) : ℕ :=
  (orNumber (raw.traffic.bind (·.total)) (orNumber (raw.traffic.bind (·.totalGB))
    (orNumber (raw.client.bind (·.totalGB)) (some local_)))).getD 0

/-- The statistics of a row that was read. -/
def readStats (now : Instant) (c : UsageClient) (raw : RawStats) (online : List String) :
    XUIClientStats :=
  let upload := (orNumber (raw.traffic.bind (·.up)) (raw.client.bind (·.up))).getD 0
  let download := (orNumber (raw.traffic.bind (·.down)) (raw.client.bind (·.down))).getD 0
  let total := statsTotal raw c.trafficLimitBytes
  let used := upload + download
  { totalTrafficBytes := total
    usedUploadBytes := upload
    usedDownloadBytes := download
    usedTrafficBytes := used
    remainingTrafficBytes := if total = 0 then 0 else total - used
    expiryAt := statsExpiry raw
    lastOnlineAt := if serviceEmail c.toVPNClient ∈ online then some now else c.lastOnlineAt
    isEnabled := statsEnabled raw
    isExpired := (statsExpiry raw).any (· ≤ now) || total ≠ 0 && total - used = 0
    raw := raw }

/-- The statistics of the local row, for a panel that could not be read. -/
def localStats (now : Instant) (c : UsageClient) : XUIClientStats where
  totalTrafficBytes := c.trafficLimitBytes
  usedUploadBytes := c.usedUploadBytes
  usedDownloadBytes := c.usedDownloadBytes
  usedTrafficBytes := c.usedTrafficBytes
  remainingTrafficBytes :=
    if c.trafficLimitBytes = 0 then 0 else c.trafficLimitBytes - c.usedTrafficBytes
  expiryAt := c.expiresAt
  lastOnlineAt := c.lastOnlineAt
  isEnabled := c.status = .active
  isExpired := c.expiresAt.any (· ≤ now)
  panelAvailable := false
  raw := c.xuiRaw

/-- What an answer says of a client. -/
def rawStats (c : UsageClient) (traffic : Option TrafficRecord) (clients : List ClientRow) :
    RawStats :=
  { traffic := traffic, client := panelClient c clients }

/-- `get_client_stats`; none where it raises. -/
def getClientStats (now : Instant) (c : UsageClient) : UsageAnswer → Option XUIClientStats
  | .refused => none
  | .failed => some (localStats now c)
  | .read traffic clients online => some (readStats now c (rawStats c traffic clients) online)

/-! ## The row -/

/-- `VPNClient.sync_usage_fields`. -/
def syncUsageFields (now : Instant) (stats : XUIClientStats) (c : UsageClient) : UsageClient :=
  { c with
    usedUploadBytes := stats.usedUploadBytes
    usedDownloadBytes := stats.usedDownloadBytes
    usedTrafficBytes := stats.usedTrafficBytes
    trafficLimitBytes :=
      if stats.totalTrafficBytes = 0 then c.trafficLimitBytes else stats.totalTrafficBytes
    expiresAt := stats.expiryAt.orElse fun _ => c.expiresAt
    lastOnlineAt := stats.lastOnlineAt.orElse fun _ => c.lastOnlineAt
    lastSyncedAt := some now
    xuiRaw := stats.raw }

def syncedStatus (stats : XUIClientStats) (status : ClientStatus) : ClientStatus :=
  if stats.isExpired then .expired
  else if stats.isEnabled then .active
  else if status = .active then .inactive
  else status

/-- `sync_vpn_client_stats` with the statistics of the panel or of the cache: the stored row. -/
def syncVpnClientStats (now : Instant) (stats : Option XUIClientStats) (c : UsageClient) :
    UsageClient :=
  if c.isDeleted ∨ c.inbound.isNone then c
  else if stats.any (·.panelAvailable) then
    let stats := stats.getD {}
    { syncUsageFields now stats c with status := syncedStatus stats c.status }
  else c

/-! ## What a record says -/

section Reported

variable (raw : RawStats)

/-- A value of the traffic record, or of the client where the traffic has none. -/
def reported {α : Type} (traffic : TrafficRecord → Option α) (client : ClientRow → Option α) :
    Option α :=
  (raw.traffic.bind traffic).orElse fun _ => raw.client.bind client

def reportedUp : Option ℕ := reported raw (·.up) (·.up)

def reportedDown : Option ℕ := reported raw (·.down) (·.down)

def reportedTotal : Option ℕ :=
  (raw.traffic.bind (·.total)).orElse fun _ => reported raw (·.totalGB) (·.totalGB)

def reportedExpiry : Option ℤ := reported raw (·.expiryTime) (·.expiryTime)

def reportedEnable : Option Bool := reported raw (·.enable.join) (·.enable.join)

/-- There is a record of the client. -/
def HasRecord : Prop := raw.traffic ≠ none ∨ raw.client ≠ none

/-- The usage with the values of the records; those that are missing stay. -/
def reportedUsed (c : UsageClient) : ℕ :=
  if reportedUp raw = none ∧ reportedDown raw = none then c.usedTrafficBytes
  else (reportedUp raw).getD c.usedUploadBytes + (reportedDown raw).getD c.usedDownloadBytes

/-- By its records the client is over; `held` is the row that the answer was read for. -/
def ReportedOver (now : Instant) (held c : UsageClient) : Prop :=
  ((reportedExpiry raw).bind parseXuiDatetime).any (· ≤ now) = true ∨
    (reportedTotal raw).getD held.trafficLimitBytes ≠ 0 ∧
      (reportedTotal raw).getD held.trafficLimitBytes ≤ reportedUsed raw c

instance (now : Instant) (held c : UsageClient) : Decidable (ReportedOver raw now held c) :=
  inferInstanceAs (Decidable (_ ∨ _ ∧ _))

def reportedStatus (now : Instant) (held c : UsageClient) : ClientStatus :=
  if ReportedOver raw now held c then .expired
  else if reportedEnable raw = some true then .active
  else if reportedEnable raw = some false ∧ c.status = .active then .inactive
  else c.status

end Reported

/-- The usage, the limit, the expiry and the status are those of the records. -/
structure Recorded (raw : RawStats) (now : Instant) (held c c' : UsageClient) : Prop where
  upload : c'.usedUploadBytes = (reportedUp raw).getD c.usedUploadBytes
  download : c'.usedDownloadBytes = (reportedDown raw).getD c.usedDownloadBytes
  used : c'.usedTrafficBytes = reportedUsed raw c
  limit : c'.trafficLimitBytes = (reportedTotal raw).getD c.trafficLimitBytes
  expiry : c'.expiresAt = (reportedExpiry raw).elim c.expiresAt parseXuiDatetime
  status : c'.status = reportedStatus raw now held c

/-- The row but for the bookkeeping. -/
def withoutBookkeeping (c : UsageClient) : UsageClient :=
  { c with lastOnlineAt := none, lastSyncedAt := none, xuiRaw := {} }

/-- The row but for what a synchronisation may record, too. -/
def withoutUsage (c : UsageClient) : UsageClient :=
  { withoutBookkeeping c with
    usedUploadBytes := 0
    usedDownloadBytes := 0
    usedTrafficBytes := 0
    trafficLimitBytes := 0
    expiresAt := none
    status := .created }

/-- Nothing but what the answer says of the client is recorded. -/
structure OnlyRecords (now : Instant) (held c : UsageClient) (answer : UsageAnswer)
    (c' : UsageClient) : Prop where
  others : withoutUsage c' = withoutUsage c
  unasked : c.isDeleted = true ∨ c.inbound = none → c' = c
  unread : answer = .refused ∨ answer = .failed → c' = c
  silent : ∀ traffic clients online, answer = .read traffic clients online →
    ¬ HasRecord (rawStats held traffic clients) → withoutBookkeeping c' = withoutBookkeeping c
  recorded : ∀ traffic clients online, answer = .read traffic clients online →
    HasRecord (rawStats held traffic clients) → ¬ (c.isDeleted = true ∨ c.inbound = none) →
      Recorded (rawStats held traffic clients) now held c c'

/-! ## When it is so -/

/-- A counter: a zero of the traffic is not another number of the client, and one that is missing
was zero. -/
def PlainCounter (traffic client : Option ℕ) (stored : ℕ) : Prop :=
  (traffic = some 0 → client.getD 0 = 0) ∧ (traffic = none → client = none → stored = 0)

/-- An unlimited traffic is not another limit anywhere else, and one that is missing was the same
when the answer was read. -/
structure PlainLimit (raw : RawStats) (held c : UsageClient) : Prop where
  unlimited : reportedTotal raw = some 0 →
    (raw.traffic.bind (·.totalGB)).getD 0 = 0 ∧ (raw.client.bind (·.totalGB)).getD 0 = 0 ∧
      held.trafficLimitBytes = 0 ∧ c.trafficLimitBytes = 0
  missing : reportedTotal raw = none →
    held.trafficLimitBytes = 0 ∨ held.trafficLimitBytes = c.trafficLimitBytes

/-- A client without an expiry had none. -/
def PlainExpiry (raw : RawStats) (c : UsageClient) : Prop :=
  ∀ v, reportedExpiry raw = some v → v ≤ 0 → c.expiresAt = none ∧
    (raw.traffic.bind (·.expiryTime) = some 0 → (raw.client.bind (·.expiryTime)).getD 0 ≤ 0)

/-- A client that is not over is shown as enabled by the first key, and one of which nothing is
shown was not active. -/
def PlainEnable (raw : RawStats) (now : Instant) (held c : UsageClient) : Prop :=
  ReportedOver raw now held c ∨
    (reportedEnable raw = some true → raw.traffic.bind (·.enable) ≠ some none) ∧
      (reportedEnable raw = none → c.status ≠ .active)

structure PlainRecord (raw : RawStats) (now : Instant) (held c : UsageClient) : Prop where
  upload : PlainCounter (raw.traffic.bind (·.up)) (raw.client.bind (·.up)) c.usedUploadBytes
  download : PlainCounter (raw.traffic.bind (·.down)) (raw.client.bind (·.down))
    c.usedDownloadBytes
  used : reportedUp raw = none → reportedDown raw = none → c.usedTrafficBytes = 0
  limit : PlainLimit raw held c
  expiry : PlainExpiry raw c
  enable : PlainEnable raw now held c

/-- A client that the panel does not know was not used, and not active. -/
structure Unused (held c : UsageClient) : Prop where
  upload : c.usedUploadBytes = 0
  download : c.usedDownloadBytes = 0
  used : c.usedTrafficBytes = 0
  limit : held.trafficLimitBytes = 0 ∨ held.trafficLimitBytes = c.trafficLimitBytes
  status : c.status ≠ .active

/-- The answers after which nothing but records is stored. -/
structure PlainAnswer (now : Instant) (held c : UsageClient) (answer : UsageAnswer) : Prop where
  silent : ∀ traffic clients online, answer = .read traffic clients online →
    ¬ (c.isDeleted = true ∨ c.inbound = none) → ¬ HasRecord (rawStats held traffic clients) →
      Unused held c
  recorded : ∀ traffic clients online, answer = .read traffic clients online →
    ¬ (c.isDeleted = true ∨ c.inbound = none) → HasRecord (rawStats held traffic clients) →
      PlainRecord (rawStats held traffic clients) now held c

/-! ## Values -/

variable {raw : RawStats} {now : Instant} {held c : UsageClient}

theorem counter_iff {a b : Option ℕ} {stored : ℕ} :
    (orNumber a b).getD 0 = (a.orElse fun _ => b).getD stored ↔ PlainCounter a b stored := by
  rw [orNumber, PlainCounter]
  cases a with
  | none =>
      cases b with
      | none => simp [eq_comm]
      | some b => simp
  | some a =>
      by_cases ha : a = 0
      · simp [ha, eq_comm]
      · simp [ha]

theorem options_limit_iff (a b d : Option ℕ) (h l : ℕ) :
    (if (orNumber a (orNumber b (orNumber d (some h)))).getD 0 = 0 then l
      else (orNumber a (orNumber b (orNumber d (some h)))).getD 0) =
        (a.orElse fun _ => b.orElse fun _ => d).getD l ↔
      ((a.orElse fun _ => b.orElse fun _ => d) = some 0 →
        b.getD 0 = 0 ∧ d.getD 0 = 0 ∧ h = 0 ∧ l = 0) ∧
      ((a.orElse fun _ => b.orElse fun _ => d) = none → h = 0 ∨ h = l) := by
  cases a with
  | none =>
      cases b with
      | none => cases d <;> simp only [orNumber] <;> grind
      | some b => simp only [orNumber] <;> grind
  | some a =>
      by_cases ha : a = 0
      · have hsome : (some 0 : Option ℕ) ≠ none := by simp
        subst ha
        by_cases hb : b.getD 0 = 0 <;> by_cases hd : d.getD 0 = 0 <;> by_cases hh : h = 0 <;>
          simp [orNumber, hb, hd, hh, eq_comm]
      · simp [orNumber, ha]

theorem limit_iff :
    (if statsTotal raw held.trafficLimitBytes = 0 then c.trafficLimitBytes
      else statsTotal raw held.trafficLimitBytes) = (reportedTotal raw).getD c.trafficLimitBytes ↔
      PlainLimit raw held c := by
  rw [statsTotal, reportedTotal, reported, options_limit_iff]
  exact ⟨fun h => ⟨h.1, h.2⟩, fun h => ⟨h.unlimited, h.missing⟩⟩

theorem orElse_eq_elim {a : Option Instant} {v : ℤ} (h : a = parseXuiDatetime v)
    (stored : Option Instant) :
    (a.orElse fun _ => stored) = parseXuiDatetime v ↔ (v ≤ 0 → stored = none) := by
  subst h
  rw [← parseXuiDatetime_eq_none]
  cases parseXuiDatetime v with
  | none => simp
  | some t => simp

theorem expiry_iff :
    ((statsExpiry raw).orElse fun _ => c.expiresAt) =
        (reportedExpiry raw).elim c.expiresAt parseXuiDatetime ↔ PlainExpiry raw c := by
  have hzero : parseXuiDatetime 0 = none := parseXuiDatetime_eq_none.mpr le_rfl
  rw [statsExpiry, PlainExpiry, reportedExpiry, reported]
  cases raw.traffic.bind (·.expiryTime) with
  | none =>
      cases raw.client.bind (·.expiryTime) with
      | none => simp [hzero]
      | some v =>
          have hv := @orElse_eq_elim (parseXuiDatetime v) v rfl c.expiresAt
          simpa using hv
  | some v =>
      by_cases h0 : v = 0
      · subst h0
        have hsome (t : Instant) : (some t = (none : Option Instant)) ↔ False := by simp
        cases hd : parseXuiDatetime ((raw.client.bind (·.expiryTime)).getD 0) with
        | none =>
            have hle := parseXuiDatetime_eq_none.mp hd
            simp [hd, hzero, hle]
        | some t =>
            have hle : ¬ (raw.client.bind (·.expiryTime)).getD 0 ≤ 0 := by
              rw [← parseXuiDatetime_eq_none, hd]
              simp
            simp [hd, hzero, hle]
      · have hv := @orElse_eq_elim (parseXuiDatetime v) v rfl c.expiresAt
        simpa [h0] using hv

theorem eq_zero_of_statsTotal {stored : ℕ} (h : statsTotal raw stored = 0) : stored = 0 := by
  simp only [statsTotal, orNumber] at h
  grind

theorem statsTotal_eq (h : PlainLimit raw held c) :
    statsTotal raw held.trafficLimitBytes = (reportedTotal raw).getD held.trafficLimitBytes := by
  have hown : PlainLimit raw held held := by
    refine ⟨fun hzero => ?_, fun _ => .inr rfl⟩
    obtain ⟨htraffic, hclient, hheld, -⟩ := h.unlimited hzero
    exact ⟨htraffic, hclient, hheld, hheld⟩
  rw [← limit_iff.mpr hown]
  by_cases htotal : statsTotal raw held.trafficLimitBytes = 0
  · rw [if_pos htotal, htotal, eq_zero_of_statsTotal htotal]
  · rw [if_neg htotal]

theorem statsExpiry_eq (h : PlainExpiry raw c) :
    statsExpiry raw = (reportedExpiry raw).bind parseXuiDatetime := by
  have hzero : parseXuiDatetime 0 = none := parseXuiDatetime_eq_none.mpr le_rfl
  rw [PlainExpiry] at h
  rw [statsExpiry]
  rw [reportedExpiry, reported] at h ⊢
  cases htraffic : raw.traffic.bind (·.expiryTime) with
  | none => cases raw.client.bind (·.expiryTime) <;> simp [hzero]
  | some v =>
      rw [htraffic] at h
      by_cases h0 : v = 0
      · subst h0
        have hle := (h 0 rfl le_rfl).2 rfl
        simp [hzero, parseXuiDatetime_eq_none.mpr hle]
      · simp [h0]

/-! ## The stored row -/

section Sync

variable {later : Instant} {online : List String}

/-- The counters that are read. -/
def readUp (raw : RawStats) : ℕ :=
  (orNumber (raw.traffic.bind (·.up)) (raw.client.bind (·.up))).getD 0

def readDown (raw : RawStats) : ℕ :=
  (orNumber (raw.traffic.bind (·.down)) (raw.client.bind (·.down))).getD 0

theorem readUp_iff : readUp raw = (reportedUp raw).getD c.usedUploadBytes ↔
    PlainCounter (raw.traffic.bind (·.up)) (raw.client.bind (·.up)) c.usedUploadBytes :=
  counter_iff

theorem readDown_iff : readDown raw = (reportedDown raw).getD c.usedDownloadBytes ↔
    PlainCounter (raw.traffic.bind (·.down)) (raw.client.bind (·.down)) c.usedDownloadBytes :=
  counter_iff

theorem orNumber_none {a b : Option ℕ} (h : (a.orElse fun _ => b) = none) :
    (orNumber a b).getD 0 = 0 := by
  cases a with
  | none =>
      obtain rfl : b = none := by simpa using h
      rfl
  | some a => simp at h

theorem used_iff (hup : readUp raw = (reportedUp raw).getD c.usedUploadBytes)
    (hdown : readDown raw = (reportedDown raw).getD c.usedDownloadBytes) :
    readUp raw + readDown raw = reportedUsed raw c ↔
      (reportedUp raw = none → reportedDown raw = none → c.usedTrafficBytes = 0) := by
  rw [reportedUsed]
  by_cases hnone : reportedUp raw = none ∧ reportedDown raw = none
  · have hup0 : readUp raw = 0 := orNumber_none hnone.1
    have hdown0 : readDown raw = 0 := orNumber_none hnone.2
    rw [if_pos hnone, hup0, hdown0]
    exact ⟨fun h _ _ => h.symm, fun h => (h hnone.1 hnone.2).symm⟩
  · rw [if_neg hnone, hup, hdown]
    exact iff_of_true rfl fun hu hd => absurd ⟨hu, hd⟩ hnone

/-- What is stored after a reading. -/
theorem sync_read (hasked : ¬ (c.isDeleted = true ∨ c.inbound = none)) :
    syncVpnClientStats later (some (readStats now held raw online)) c =
      { syncUsageFields later (readStats now held raw online) c with
        status := syncedStatus (readStats now held raw online) c.status } := by
  have hasked : ¬ (c.isDeleted = true ∨ c.inbound.isNone = true) := by
    rwa [Option.isNone_iff_eq_none]
  rw [syncVpnClientStats, if_neg hasked]
  rfl

theorem isExpired_iff (hused : readUp raw + readDown raw = reportedUsed raw c)
    (hlimit : PlainLimit raw held c) (hexpiry : PlainExpiry raw c) :
    (readStats now held raw online).isExpired = true ↔ ReportedOver raw now held c := by
  change ((statsExpiry raw).any (· ≤ now) ||
    statsTotal raw held.trafficLimitBytes ≠ 0 &&
      statsTotal raw held.trafficLimitBytes - (readUp raw + readDown raw) = 0) = true ↔ _
  rw [statsExpiry_eq hexpiry, statsTotal_eq hlimit, hused, ReportedOver]
  simp only [Bool.or_eq_true, Bool.and_eq_true, decide_eq_true_eq, ne_eq, Nat.sub_eq_zero_iff_le]

theorem statsEnabled_eq_true : statsEnabled raw = true ↔
    reportedEnable raw = some true ∧ raw.traffic.bind (·.enable) ≠ some none := by
  rw [statsEnabled, reportedEnable, reported]
  cases raw.traffic with
  | none => cases raw.client with
    | none => simp
    | some row =>
        cases henable : row.enable with
        | none => simp [henable]
        | some b => cases b <;> simp [henable]
  | some t =>
      cases henable : t.enable with
      | none =>
          cases raw.client with
          | none => simp [henable]
          | some row =>
              cases hrow : row.enable with
              | none => simp [henable, hrow]
              | some b => cases b <;> simp [henable, hrow]
      | some b => cases b <;> simp [henable]

theorem status_iff (hover : (readStats now held raw online).isExpired = true ↔
      ReportedOver raw now held c) :
    syncedStatus (readStats now held raw online) c.status = reportedStatus raw now held c ↔
      PlainEnable raw now held c := by
  rw [syncedStatus, reportedStatus, PlainEnable]
  by_cases hexpired : ReportedOver raw now held c
  · simp [hover.mpr hexpired, hexpired]
  · have hopen : ¬ (readStats now held raw online).isExpired = true := fun h => hexpired (hover.mp h)
    rw [if_neg hopen, if_neg hexpired]
    have henabled : (readStats now held raw online).isEnabled = statsEnabled raw := rfl
    rw [henabled]
    simp only [statsEnabled_eq_true]
    by_cases hactive : c.status = .active <;>
      by_cases hkey : raw.traffic.bind (·.enable) = some none <;>
      rcases reportedEnable raw with _ | _ | _ <;> simp [hactive, hkey, hexpired]

/-- After a reading the row holds what the records say exactly where they say it plainly. -/
theorem recorded_iff (hasked : ¬ (c.isDeleted = true ∨ c.inbound = none)) :
    Recorded raw now held c (syncVpnClientStats later (some (readStats now held raw online)) c) ↔
      PlainRecord raw now held c := by
  rw [sync_read hasked]
  constructor
  · intro h
    have hup : readUp raw = (reportedUp raw).getD c.usedUploadBytes := h.upload
    have hdown : readDown raw = (reportedDown raw).getD c.usedDownloadBytes := h.download
    have hused : readUp raw + readDown raw = reportedUsed raw c := h.used
    have hlimit : PlainLimit raw held c := limit_iff.mp h.limit
    have hexpiry : PlainExpiry raw c := expiry_iff.mp h.expiry
    exact ⟨readUp_iff.mp hup, readDown_iff.mp hdown, (used_iff hup hdown).mp hused, hlimit, hexpiry,
      (status_iff (isExpired_iff hused hlimit hexpiry)).mp h.status⟩
  · intro h
    have hup := readUp_iff.mpr h.upload
    have hdown := readDown_iff.mpr h.download
    have hused := (used_iff hup hdown).mpr h.used
    exact ⟨hup, hdown, hused, limit_iff.mpr h.limit, expiry_iff.mpr h.expiry,
      (status_iff (isExpired_iff hused h.limit h.expiry)).mpr h.enable⟩

theorem silent_stats (h : ¬ HasRecord raw) : readStats now held raw online =
    { totalTrafficBytes := held.trafficLimitBytes
      usedUploadBytes := 0
      usedDownloadBytes := 0
      usedTrafficBytes := 0
      remainingTrafficBytes := held.trafficLimitBytes
      expiryAt := none
      lastOnlineAt := if serviceEmail held.toVPNClient ∈ online then some now else held.lastOnlineAt
      isEnabled := false
      isExpired := false
      raw := raw } := by
  rw [HasRecord, not_or, not_not, not_not] at h
  have hzero : parseXuiDatetime 0 = none := parseXuiDatetime_eq_none.mpr le_rfl
  simp only [readStats, statsTotal, statsExpiry, statsEnabled, h.1, h.2, orNumber]
  simp [hzero]
  intro hheld
  exact hheld.symm

/-- A client that the panel does not know is left alone exactly where it was not used. -/
theorem silent_iff (hasked : ¬ (c.isDeleted = true ∨ c.inbound = none)) (h : ¬ HasRecord raw) :
    withoutBookkeeping (syncVpnClientStats later (some (readStats now held raw online)) c) =
      withoutBookkeeping c ↔ Unused held c := by
  rw [sync_read hasked, silent_stats h]
  constructor
  · intro heq
    have hup : 0 = c.usedUploadBytes := congrArg UsageClient.usedUploadBytes heq
    have hdown : 0 = c.usedDownloadBytes := congrArg UsageClient.usedDownloadBytes heq
    have hused : 0 = c.usedTrafficBytes := congrArg (·.usedTrafficBytes) heq
    have hlimit : (if held.trafficLimitBytes = 0 then c.trafficLimitBytes
        else held.trafficLimitBytes) = c.trafficLimitBytes := congrArg (·.trafficLimitBytes) heq
    have hstatus : (if c.status = .active then .inactive else c.status) = c.status :=
      congrArg (·.status) heq
    refine ⟨hup.symm, hdown.symm, hused.symm, ?_, ?_⟩
    · by_cases hheld : held.trafficLimitBytes = 0
      · exact .inl hheld
      · rw [if_neg hheld] at hlimit
        exact .inr hlimit
    · intro hactive
      rw [if_pos hactive, hactive] at hstatus
      cases hstatus
  · intro hunused
    have hlimit : (if held.trafficLimitBytes = 0 then c.trafficLimitBytes
        else held.trafficLimitBytes) = c.trafficLimitBytes := by
      rcases hunused.limit with hheld | hheld
      · rw [if_pos hheld]
      · rw [hheld, ite_self]
    obtain ⟨hup, hdown, hused, -, hstatus⟩ := hunused
    cases c with
    | mk base up down online synced raw =>
        cases base
        simp only at hup hdown hused hstatus hlimit
        subst hup hdown hused
        simp [withoutBookkeeping, syncUsageFields, syncedStatus, hstatus, hlimit]

end Sync

/-- The synchronisation records what the panel's records of the client say, and nothing else,
exactly after the answers that say it plainly. -/
theorem sync_onlyRecords_iff (now later : Instant) (held c : UsageClient) (answer : UsageAnswer) :
    OnlyRecords now held c answer (syncVpnClientStats later (getClientStats now held answer) c) ↔
      PlainAnswer now held c answer := by
  have hothers : withoutUsage (syncVpnClientStats later (getClientStats now held answer) c) =
      withoutUsage c := by
    rw [syncVpnClientStats]
    split
    · rfl
    · split <;> rfl
  have hunasked (h : c.isDeleted = true ∨ c.inbound = none) :
      syncVpnClientStats later (getClientStats now held answer) c = c := by
    rw [syncVpnClientStats, if_pos (by rwa [Option.isNone_iff_eq_none])]
  constructor
  · intro h
    constructor
    · rintro traffic clients online rfl hasked hnone
      exact (silent_iff hasked hnone).mp (h.silent traffic clients online rfl hnone)
    · rintro traffic clients online rfl hasked hrecord
      exact (recorded_iff hasked).mp (h.recorded traffic clients online rfl hrecord hasked)
  · intro h
    refine ⟨hothers, hunasked, ?_, ?_, ?_⟩
    · rintro (rfl | rfl)
      · rw [syncVpnClientStats, getClientStats]
        simp
      · rw [syncVpnClientStats, getClientStats]
        simp [localStats]
    · rintro traffic clients online rfl hnone
      by_cases hasked : c.isDeleted = true ∨ c.inbound = none
      · rw [hunasked hasked]
      · exact (silent_iff hasked hnone).mpr (h.silent traffic clients online rfl hasked hnone)
    · rintro traffic clients online rfl hrecord hasked
      exact (recorded_iff hasked).mpr (h.recorded traffic clients online rfl hasked hrecord)

/-- A client that has used some of its traffic. -/
def usedClient : UsageClient where
  pk := 1
  order := none
  plan := none
  inbound := some 1
  username := "ali"
  status := .active
  trafficLimitBytes := 1000
  usedTrafficBytes := 900
  usedUploadBytes := 400
  usedDownloadBytes := 500

/-- A panel that answers, and knows nothing of the client: its usage is reset, and it is shown as
inactive. -/
theorem unknown_client_reset :
    ¬ HasRecord (rawStats usedClient none []) ∧
      (syncVpnClientStats 0 (getClientStats 0 usedClient (.read none [] [])) usedClient).usedTrafficBytes
        = 0 ∧
      (syncVpnClientStats 0 (getClientStats 0 usedClient (.read none [] [])) usedClient).status
        = .inactive ∧
      ¬ OnlyRecords 0 usedClient usedClient (.read none [] [])
        (syncVpnClientStats 0 (getClientStats 0 usedClient (.read none [] [])) usedClient) := by
  have hnone : ¬ HasRecord (rawStats usedClient none []) := by
    rintro (h | h) <;> exact h rfl
  refine ⟨hnone, by decide, by decide, fun h => ?_⟩
  have hsame := congrArg (·.usedTrafficBytes) (h.silent none [] [] rfl hnone)
  revert hsame
  decide

end Qasedak.Panels

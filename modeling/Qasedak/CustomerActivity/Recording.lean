import Mathlib
import Qasedak.CustomerActivity.Mapping

/-! `customer_activity/services.py`: what is recorded of a purchase at each observation, and
the label that follows from it. -/

namespace Qasedak.CustomerActivity

open Foundation Store

/-- `WINDOW`. -/
def window : Instant := minutes 2880

/-- `MAX_GAP`. -/
def maxGap : Instant := minutes 45

/-! ## Entitlement -/

inductive Entitlement where
  | unknown
  | superseded
  | conflict
  | closed
  | disabled
  | valid
  | expired
  | exhausted
  | ended
  deriving DecidableEq, Repr

/-- The state of one row, with its expiry where it has expired. -/
def rowState (row : PanelRow) (now : Instant) : Entitlement × Option Instant :=
  if row.remoteStatus = "expired" || row.expiryTime.any (fun t => t.instant ≤ now) then
    (.expired, row.expiryTime.map (·.instant))
  else if row.remoteStatus = "limited" ||
      row.totalBytes.any (fun total => 0 < total && total ≤ row.usedBytes.getD 0) then
    (.exhausted, none)
  else if row.enabled = some false then (.disabled, none)
  else if row.enabled = some true ∧ row.totalBytes.isSome then (.valid, none)
  else (.unknown, none)

/-- A quota is compared with usage that the panel did not send. -/
def rowRaises (row : PanelRow) (now : Instant) : Bool :=
  row.usedBytes = none && row.totalBytes.any (fun total => 0 < total) &&
    row.remoteStatus ≠ "expired" && row.remoteStatus ≠ "limited" &&
    !row.expiryTime.any (fun t => t.instant ≤ now)

/-- `FULFILLED`. -/
def Fulfilled (o : Order) : Prop := o.status = .confirmed ∨ o.status = .completed

instance (o : Order) : Decidable (Fulfilled o) := inferInstanceAs (Decidable (_ ∨ _))

/-- The latest of some instants. -/
def latest (times : List Instant) : Option Instant := times.max?

/-- The earliest of some instants. -/
def earliest (times : List Instant) : Option Instant := times.min?

/-- `entitlement`: the state, a reason and the time at which the service ended. -/
def entitlement (m : PurchaseMap) (rows : Dict PanelRow) (now : Instant) :
    Entitlement × String × Option Instant :=
  if m.superseded then (.superseded, "superseded", none)
  else
    let states := rows.values.map (rowState · now)
    let ends := states.filterMap Prod.snd
    let hasValid := states.any (·.1 = .valid)
    if m.order.status = .cancelled ∨ m.order.status = .rejected then
      if hasValid then (.conflict, "closed_order_active", none) else (.closed, "", none)
    else if ¬ Fulfilled m.order ∨ m.order.verificationStatus ≠ .verified then
      (.conflict, "unverified_service", none)
    else
      match states with
      | [] => (.unknown, "", none)
      | first :: _ =>
          if m.cups ≠ [] ∧ m.cups.all fun cup =>
              !cup.isActive || cup.expiresAt.any (fun t => t ≤ now) then
            if hasValid then (.conflict, "closed_cup_active", none) else (.disabled, "", none)
          else if states.all (·.1 = .valid) then (.valid, "", none)
          else if hasValid ∨ states.any (·.1 = .unknown) then (.unknown, "", none)
          else
            (if states.all (·.1 = first.1) then first.1 else .ended, "",
              if ends.length = states.length then latest ends else none)

/-! ## Counters -/

/-- What is kept of a row. -/
structure Counter where
  used : ℤ
  up : ℤ
  down : ℤ
  capturedAt : Instant
  quota : Option ℤ
  expiry : Option Moment
  deriving DecidableEq, Repr

/-- The counters of a row, unless one of them is missing or negative. -/
def counterOf (row : PanelRow) : Option Counter :=
  match row.usedBytes, row.uploadBytes, row.downloadBytes with
  | some used, some up, some down =>
      if used < 0 ∨ up < 0 ∨ down < 0 then none
      else some ⟨used, up, down, row.capturedAt, row.totalBytes, row.expiryTime⟩
  | _, _, _ => none

/-- `current`: the counters of all rows; none where one is missing. -/
def countersOf (rows : Dict PanelRow) : Option (Dict Counter) :=
  if rows.values.all fun row => (counterOf row).isSome then
    some (rows.mapValues fun _ row => (counterOf row).getD ⟨0, 0, 0, 0, none, none⟩)
  else none

def captureTimes (counters : Dict Counter) : List Instant := counters.values.map (·.capturedAt)

/-- A comparison of what two observations say about each source of the first. -/
def forSources (p : Counter → Counter → Bool) (previous current : Dict Counter) : Bool :=
  current.entries.all fun e =>
    match previous.lookup e.1 with
    | some before => p before e.2
    | none => false

/-- The capture is later than the one before, and not by too much. -/
def timely (before after : Counter) : Bool :=
  0 < after.capturedAt - before.capturedAt && after.capturedAt - before.capturedAt ≤ maxGap

def sameCycle (before after : Counter) : Bool :=
  after.quota = before.quota && after.expiry = before.expiry

def notDecreased (before after : Counter) : Bool :=
  before.used ≤ after.used && before.up ≤ after.up && before.down ≤ after.down

/-- The bytes used between two observations. -/
def growth (previous current : Dict Counter) : ℤ :=
  (current.entries.map fun e =>
    e.2.used - ((previous.lookup e.1).map (·.used)).getD 0).sum

/-! ## Recording -/

/-- `PurchaseActivity`. -/
structure PurchaseActivity where
  observedAt : Option Instant := none
  entitlement : Entitlement := .unknown
  reason : String := "not_observed"
  counters : Dict Counter := ∅
  continuousSince : Option Instant := none
  lastActivityStart : Option Instant := none
  lastActivityAt : Option Instant := none
  sourceCount : ℕ := 0
  cycle : ℕ := 1
  endedAt : Option Instant := none

/-- `reason.startswith("partial_")`. -/
def isPartial (reason : String) : Bool := "partial_".toList.isPrefixOf reason.toList

/-- `reason.removeprefix("partial_")`. -/
def withoutPartial (reason : String) : String :=
  if isPartial reason then String.ofList (reason.toList.drop 8) else reason

/-- One call of `record_purchase`. -/
structure Observation where
  purchase : PurchaseMap
  rows : Dict PanelRow
  reason : String
  now : Instant

/-- The reason for which the counters of an observation do not count. -/
def Observation.obstacle (o : Observation) : String :=
  let reason := (entitlement o.purchase o.rows o.now).2.1
  let reason := if reason = "" then o.reason else reason
  if reason = "partial_coverage" then "" else reason

/-- The observation covers a part of the purchase's sources. -/
def Observation.partly (o : Observation) : Bool :=
  (entitlement o.purchase o.rows o.now).2.1 = "" && o.reason = "partial_coverage"

/-- What an observation says about the counters. -/
inductive Quality where
  | obstructed (reason : String)
  | missingCounters
  | stale
  | baseline
  | mappingChanged
  | gap
  | cycleChanged
  | counterReset
  | ok
  deriving DecidableEq, Repr

def Quality.text : Quality → String
  | .obstructed reason => reason
  | .missingCounters => "missing_counters"
  | .stale => "stale"
  | .baseline => "baseline"
  | .mappingChanged => "mapping_changed"
  | .gap => "gap"
  | .cycleChanged => "cycle_changed"
  | .counterReset => "counter_reset"
  | .ok => "ok"

/-- The quality of counters that are there. -/
def compareCounters (a : PurchaseActivity) (partly : Bool) (current : Dict Counter)
    (now : Instant) : Quality :=
  let times := captureTimes current
  if times = [] ∨ times.any (fun t => now < t ∨ maxGap < now - t) then .stale
  else if a.counters.entries = [] ∨ (partly = false ∧ isPartial a.reason = true) then .baseline
  else if ¬ a.counters.SameKeys current then .mappingChanged
  else if a.observedAt.all (fun t => maxGap < now - t) then .gap
  else if ¬ forSources timely a.counters current then .gap
  else if ¬ forSources sameCycle a.counters current then .cycleChanged
  else if ¬ forSources notDecreased a.counters current then .counterReset
  else .ok

/-- The quality of an observation, with the counters that it brings. -/
def assess (a : PurchaseActivity) (o : Observation) : Quality × Dict Counter :=
  if o.obstacle ≠ "" then (.obstructed o.obstacle, ∅)
  else
    match countersOf o.rows with
    | none => (.missingCounters, ∅)
    | some current => (compareCounters a o.partly current o.now, current)

/-- The state that is kept, which is unknown where the counters do not count. -/
def keptEntitlement (o : Observation) (quality : Quality) : Entitlement :=
  let (state, stateReason, _) := entitlement o.purchase o.rows o.now
  let reason := if stateReason = "" then o.reason else stateReason
  let state :=
    if reason ≠ "" ∧ reason ≠ "superseded" ∧ state ≠ .closed ∧ state ≠ .conflict then .unknown
    else state
  if (quality.text = "stale" ∨ quality.text = "missing_counters") ∧
      state ≠ .closed ∧ state ≠ .conflict ∧ state ≠ .superseded then .unknown
  else state

/-- The counters of the observation are kept. -/
def Quality.counted : Quality → Bool
  | .obstructed _ | .missingCounters | .stale => false
  | _ => true

/-- What an observation newer than the last one makes of the activity. -/
def observe (minimum : ℤ) (a : PurchaseActivity) (o : Observation) : PurchaseActivity :=
  let quality := (assess a o).1
  let current := (assess a o).2
  let times := captureTimes current
  let delta := growth a.counters current
  let state := keptEntitlement o quality
  let reason := if o.partly ∧ quality.counted then "partial_" ++ quality.text else quality.text
  { observedAt := some o.now
    entitlement := state
    reason := reason
    counters := if quality.counted then current else ∅
    continuousSince :=
      if o.partly ∨ quality.counted = false then none
      else if quality = .ok then a.continuousSince
      else latest times
    lastActivityStart :=
      if quality ≠ .ok then none
      else if minimum ≤ delta then earliest (captureTimes a.counters)
      else a.lastActivityStart
    lastActivityAt :=
      if quality ≠ .ok then none
      else if minimum ≤ delta then latest times
      else a.lastActivityAt
    sourceCount := o.rows.entries.length
    cycle :=
      if ["counter_reset", "mapping_changed", "cycle_changed"].contains (withoutPartial reason)
      then a.cycle + 1
      else a.cycle
    endedAt :=
      if state = .expired ∨ state = .exhausted ∨ state = .disabled ∨ state = .ended then
        some (((entitlement o.purchase o.rows o.now).2.2.orElse fun _ => a.endedAt).getD o.now)
      else none }

/-- An error leaves the observation, and it is rolled back. -/
def Observation.raises (o : Observation) : Bool :=
  !o.purchase.superseded && o.rows.values.any (rowRaises · o.now)

/-- An observation is newer than the last one, and no error leaves it. -/
def Records (a : PurchaseActivity) (o : Observation) : Prop :=
  a.observedAt.all (· < o.now) = true ∧ o.raises = false

instance (a : PurchaseActivity) (o : Observation) : Decidable (Records a o) :=
  inferInstanceAs (Decidable (_ ∧ _))

/-- `record_purchase`. -/
def recordPurchase (minimum : ℤ) (a : PurchaseActivity) (o : Observation) : PurchaseActivity :=
  if Records a o then observe minimum a o else a

/-- `minimum_bytes`, of the setting. -/
def minimumBytes (setting : ℤ) : ℤ := max 1 setting

/-! ## The label -/

inductive ActivityStatus where
  | unknown
  | entitled (e : Entitlement)
  | active
  | inactive
  | collecting
  deriving DecidableEq, Repr

/-- The reasons under which the counters counted. -/
def countedReasons : List String :=
  ["ok", "baseline", "gap", "counter_reset", "mapping_changed", "cycle_changed"]

/-- `activity_status`. -/
def activityStatus (a : PurchaseActivity) (now : Instant) : ActivityStatus :=
  match a.observedAt with
  | none => .unknown
  | some observedAt =>
      if maxGap < now - observedAt then .unknown
      else if a.entitlement = .conflict ∨ a.entitlement = .superseded ∨ a.entitlement = .closed then
        .entitled a.entitlement
      else if ¬ countedReasons.contains (withoutPartial a.reason) then .unknown
      else if a.lastActivityStart.any (now - window ≤ ·) then .active
      else if isPartial a.reason then .unknown
      else if a.continuousSince.any (· ≤ now - window) ∧
          a.lastActivityAt.all (· ≤ now - window) then .inactive
      else .collecting

end Qasedak.CustomerActivity

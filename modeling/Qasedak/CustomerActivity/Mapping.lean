import Qasedak.Foundation.Dict
import Qasedak.Store.Model
import Mathlib.Data.List.Dedup

/-! `customer_activity/mapping.py`: which rows of the panels are the traffic of which
purchase. -/

namespace Qasedak.CustomerActivity

open Foundation Store

/-- A `datetime`; two of one instant differ where their offsets do. -/
structure Moment where
  instant : Instant
  offsetMinutes : ℤ := 0
  deriving DecidableEq, Repr

/-- `Source`. -/
structure Source where
  panelId : Option ℕ
  inboundId : Option ℕ
  node : String
  hashes : List String
  requiredHash : String := ""
  deriving DecidableEq, Repr

/-- What the collector reads of a subscription cup. -/
structure CupState where
  isActive : Bool
  expiresAt : Option Instant := none
  deriving DecidableEq, Repr

/-- `PurchaseMap`. -/
structure PurchaseMap where
  order : Order
  sources : List Source := []
  cups : List CupState := []
  /-- `issues` holds `ownership_conflict`, the only one there is. -/
  ownershipConflict : Bool := false
  superseded : Bool := false
  deriving DecidableEq, Repr

/-- A row that a panel was read as. -/
structure PanelRow where
  panelId : ℕ
  nodeId : String := ""
  remoteInboundId : String := ""
  inboundId : Option ℕ := none
  identifierHash : String
  aliases : List String
  statsAvailable : Bool := true
  usedBytes : Option ℤ := none
  uploadBytes : Option ℤ := none
  downloadBytes : Option ℤ := none
  totalBytes : Option ℤ := none
  expiryTime : Option Moment := none
  remoteStatus : String := ""
  enabled : Option Bool := none
  capturedAt : Instant := 0
  deriving DecidableEq, Repr

/-- What `row_key` digests. -/
structure RowScope where
  panelId : ℕ
  nodeId : String
  remoteInboundId : String
  identifierHash : String
  deriving DecidableEq, Repr

/-- `row_key`, for the digest of the scope. -/
def rowKey (digest : RowScope → String) (row : PanelRow) : String :=
  digest ⟨row.panelId, row.nodeId, row.remoteInboundId, row.identifierHash⟩

/-! ## The row of a source -/

/-- `not value` of a key that may be missing. -/
def missing (key : Option ℕ) : Bool := key = none || key = some 0

/-- A hash of the source is among the row's aliases. -/
def sharesAlias (s : Source) (row : PanelRow) : Bool := s.hashes.any row.aliases.contains

/-- A row with the source's identity on its panel. -/
def isCandidate (s : Source) (row : PanelRow) : Bool :=
  some row.panelId = s.panelId && (s.requiredHash = "" || row.aliases.contains s.requiredHash) &&
    sharesAlias s row

/-- A candidate in the source's own scope. -/
def isMatch (s : Source) (row : PanelRow) : Bool :=
  isCandidate s row && (s.node = "pasarguard" || row.inboundId = s.inboundId) &&
    row.nodeId = s.node

/-- The source says where it is and who it is. -/
def isScoped (s : Source) : Bool :=
  !missing s.panelId && (!missing s.inboundId || s.node = "pasarguard") && s.hashes ≠ []

/-- `resolve`: the only row that matches. -/
def resolveSource (rows : List PanelRow) (s : Source) : Option PanelRow :=
  if isScoped s then
    match rows.filter (isMatch s) with
    | [row] => some row
    | _ => none
  else none

/-! ## Claims -/

section Claims

variable (digest : RowScope → String) (maps : List PurchaseMap) (orphans : List Source)
  (rows : List PanelRow)

/-- The sources without a row, with the purchases that they are of. -/
def unresolvedSources : List (Option ℕ × Source) :=
  (maps.flatMap fun m => (m.sources.filter fun s => resolveSource rows s = none).map fun s =>
    (some m.order.pk, s)) ++ orphans.map fun s => (none, s)

/-- A source without a row lays claim to every row that may be its. -/
def laysClaim (s : Source) (row : PanelRow) : Bool :=
  (missing s.panelId || s.panelId = some row.panelId) && sharesAlias s row

/-- `claims[key]`: the purchases, and none for orphans, that lay claim to the key's rows. -/
def claimants (key : String) : List (Option ℕ) :=
  ((maps.flatMap fun m => (m.sources.filterMap (resolveSource rows)).filterMap fun row =>
      if rowKey digest row = key then some (some m.order.pk) else none) ++
    (unresolvedSources maps orphans rows).filterMap fun claim =>
      if rows.any fun row => rowKey digest row = key && laysClaim claim.2 row then some claim.1
      else none).dedup

/-! ## The result -/

/-- The rows of a purchase, by their keys. -/
def knownRows (m : PurchaseMap) : Dict PanelRow :=
  .ofValues (rowKey digest) (m.sources.filterMap (resolveSource rows))

/-- The reason why the rows of a purchase do not count, before partial coverage. -/
def baseReason (m : PurchaseMap) : String :=
  if m.ownershipConflict then "ownership_conflict"
  else if (knownRows digest rows m).keys.any fun key =>
      1 < (claimants digest maps orphans rows key).length then "shared_identity"
  else if m.sources = [] ∨ m.sources.any (fun s => resolveSource rows s = none) then
    "unmapped_source"
  else if (knownRows digest rows m).values.any (fun row => !row.statsAvailable) then
    "missing_counters"
  else ""

/-- The rows that are the purchase's alone and are counted. -/
def exclusiveRows (m : PurchaseMap) : Dict PanelRow :=
  (knownRows digest rows m).filter fun key row =>
    (claimants digest maps orphans rows key).length = 1 && row.statsAvailable

/-- `resolve_maps` for one purchase: its rows, and why they do not count in full. -/
def resolveMap (m : PurchaseMap) : Dict PanelRow × String :=
  let reason := baseReason digest maps orphans rows m
  if reason ≠ "" ∧ m.ownershipConflict = false ∧
      (exclusiveRows digest maps orphans rows m).entries ≠ [] then
    (exclusiveRows digest maps orphans rows m, "partial_coverage")
  else (knownRows digest rows m, reason)

/-- `resolve_maps`, by the purchases' keys. -/
def resolveMaps : List (ℕ × Dict PanelRow × String) :=
  maps.map fun m => (m.order.pk, resolveMap digest maps orphans rows m)

end Claims

end Qasedak.CustomerActivity

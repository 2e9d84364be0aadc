import Qasedak.Foundation.Serial
import Qasedak.Panels.PanelJson
import Qasedak.WizwizImport.Model

/-! `store/management/commands/sync_xui_topology.py`: the inbounds that an X-UI panel lists are
matched with the rows that the shop keeps of them. -/

namespace Qasedak.Panels

open Foundation Store Payments WizwizImport

/-! ## Local rows -/

inductive XUISource where
  | onPanel
  | synchronizedNode
  | pasarguardGroup
  deriving DecidableEq, Repr

/-- An `Inbound`, with the columns that the command writes. -/
structure LocalInbound where
  pk : ℕ
  panel : ℕ
  inboundId : ℕ
  remark : String := ""
  protocol : String := "vless"
  serverIp : String := ""
  port : String := ""
  configParams : String := ""
  isActive : Bool := true
  availableForNewOrders : Bool := true
  healthMonitorEnabled : Bool := true
  xuiNodeId : String := ""
  xuiNodeName : String := ""
  xuiSource : XUISource := .onPanel
  xuiRemoteKey : String := ""
  isSyncedFromNode : Bool := false
  lastSyncedAt : Option Instant := none
  deriving DecidableEq, Repr

namespace LocalInbound

/-- The columns of `unique_inbound_remote_scope_per_panel`. -/
def remoteScope (row : LocalInbound) : ℕ × String × ℕ := (row.panel, row.xuiNodeId, row.inboundId)

/-- `xui_remote_scope_key`. -/
def xuiRemoteScopeKey (row : LocalInbound) : String :=
  let nodeId := if strip row.xuiNodeId = "" then "local" else strip row.xuiNodeId
  if row.xuiRemoteKey = "" then s!"{row.panel}:{nodeId}:{row.inboundId}" else row.xuiRemoteKey

/-- The columns that `apply_updates` saves take their values. -/
def FitsScope (engine : Engine) (row : LocalInbound) : Prop :=
  engine.FitsText 100 row.xuiNodeId ∧ engine.FitsText 150 row.xuiNodeName ∧
    engine.FitsText 300 row.xuiRemoteKey

instance (engine : Engine) (row : LocalInbound) : Decidable (row.FitsScope engine) :=
  inferInstanceAs (Decidable (_ ∧ _))

/-- Every column takes its value. -/
def Fits (engine : Engine) (row : LocalInbound) : Prop :=
  row.FitsScope engine ∧ engine.FitsInt row.inboundId ∧ engine.FitsText 150 row.remark ∧
    engine.FitsText 20 row.protocol ∧ engine.FitsText 100 row.serverIp ∧
    engine.FitsText 10 row.port

instance (engine : Engine) (row : LocalInbound) : Decidable (row.Fits engine) :=
  inferInstanceAs (Decidable (_ ∧ _))

end LocalInbound

/-- The table of the inbounds, with its constraint. -/
structure InboundTable extends Serial LocalInbound.pk where
  scopes_nodup : (rows.map LocalInbound.remoteScope).Nodup

inductive SyncError where
  | integrityError
  | dataError
  /-- `int` of a text that is no number. -/
  | valueError
  deriving DecidableEq, Repr

namespace InboundTable

/-- Keep a change of the rows, unless two of them have one scope then. -/
def commit (rows : Serial LocalInbound.pk) : Except SyncError InboundTable :=
  if h : (rows.rows.map LocalInbound.remoteScope).Nodup then .ok ⟨rows, h⟩
  else .error .integrityError

/-- `save` of the changed row with a key. -/
def save (engine : Engine) (t : InboundTable) (pk : ℕ) (f : LocalInbound → LocalInbound)
    (hf : ∀ row, (f row).pk = row.pk) : Except SyncError InboundTable :=
  if ∀ row ∈ t.rows, row.pk = pk → (f row).FitsScope engine then
    commit (t.modify (fun row => row.pk = pk) f hf)
  else .error .dataError

/-- `create`. -/
def create (engine : Engine) (t : InboundTable) (f : ℕ → LocalInbound)
    (hf : ∀ pk, (f pk).pk = pk) : Except SyncError InboundTable :=
  if (f t.next).Fits engine then commit (t.append f hf) else .error .dataError

/-- The rows of a panel. -/
def ofPanel (t : InboundTable) (panel : ℕ) : List LocalInbound :=
  t.rows.filter (·.panel = panel)

end InboundTable

/-! ## Remote inbounds -/

/-- What `fetch_topology` has read of the nodes. -/
structure NodeDirectory where
  /-- `node_names.get(node)`. -/
  name : String → Json := fun _ => .null
  /-- `node_addresses.get(node)`, or an empty text. -/
  address : String → String := fun _ => ""

/-- An `XUIInbound`, with what `fetch_topology` adds to it. -/
structure RemoteInbound where
  nodeExternalId : String
  nodeName : String
  inboundExternalId : String
  remoteKey : String
  remark : String
  protocol : String
  active : Option Bool
  source : XUISource
  managedShareAddress : String
  nodeAddress : String
  raw : JsonObject

/-- The options of a run. -/
structure SyncOptions where
  engine : Engine
  panel : ℕ
  /-- The host of the panel's URL. -/
  fallbackHost : String := ""
  availableForNewOrders : Bool := false
  activeOnly : Bool := false
  now : Instant
  deriving DecidableEq, Repr

section Normalize

variable (rt : Runtime) (nodes : NodeDirectory)

/-- `normalize_inbound`, under the context that `fetch_topology` gives it. -/
def normalizeInbound (panel : ℕ) (payload : JsonObject) : RemoteInbound :=
  let nodeExternalId := stringOf rt (firstOf [field payload "originNodeGuid",
    field payload "nodeGuid", field payload "nodeId"])
  let inboundExternalId := stringOf rt (firstOf [field payload "id", field payload "inboundId"])
  { nodeExternalId
    nodeName := if nodeExternalId = "" then "" else stringOf rt (nodes.name nodeExternalId)
    inboundExternalId
    remoteKey := toString panel ++ ":" ++
      (if nodeExternalId = "" then "local" else nodeExternalId) ++ ":" ++ inboundExternalId
    remark := stringOf rt (field payload "remark")
    protocol := rt.lower (stringOf rt (field payload "protocol"))
    active := boolOrNone rt (field payload "enable")
    source := if nodeExternalId = "" then .onPanel else .synchronizedNode
    managedShareAddress := stringOf rt (field payload "shareAddr")
    nodeAddress := nodes.address nodeExternalId
    raw := payload }

/-- The inbounds of `fetch_topology`; `sync_inbounds` drops those that are not active. -/
def fetchTopology (options : SyncOptions) (payloads : List JsonObject) : List RemoteInbound :=
  (payloads.map (normalizeInbound rt nodes options.panel)).filter fun r =>
    !options.activeOnly || r.active != some false

end Normalize

/-- The scope that a row is matched by. -/
def RemoteInbound.scope (r : RemoteInbound) : String × String :=
  (r.inboundExternalId, r.nodeExternalId)

def LocalInbound.scope (row : LocalInbound) : String × String :=
  (toString row.inboundId, row.xuiNodeId)

/-! ## `plan_updates` -/

/-- The reasons of `plan_updates`. -/
inductive SkipReason where
  /-- "remote inbound ID is ambiguous across node scopes". -/
  | ambiguous
  /-- "no unique local inbound match". -/
  | notUnique
  /-- "local inbound missing". -/
  | missing
  deriving DecidableEq, Repr

structure TopologyUpdate where
  inbound : LocalInbound
  remote : RemoteInbound

structure TopologySkip where
  remote : RemoteInbound
  reason : SkipReason

structure TopologyPlan where
  updates : List TopologyUpdate := []
  skipped : List TopologySkip := []

/-- `remote_inbound_counts.get(inbound_id)`. -/
def remoteInboundCount (remotes : List RemoteInbound) (inboundId : String) : ℕ :=
  remotes.countP (·.inboundExternalId = inboundId)

/-- The only row among the matches by id. -/
def onlyMatch : List LocalInbound → Except SkipReason LocalInbound
  | [] => .error .missing
  | [row] => .ok row
  | _ :: _ :: _ => .error .notUnique

/-- The row that the loop of `plan_updates` finds for a remote inbound. -/
def matchRemote (rows : List LocalInbound) (remotes : List RemoteInbound) (r : RemoteInbound) :
    Except SkipReason LocalInbound :=
  match rows.filter (·.scope = r.scope) with
  | [row] => .ok row
  | _ =>
      if 1 < remoteInboundCount remotes r.inboundExternalId then .error .ambiguous
      else onlyMatch (rows.filter fun row => toString row.inboundId = r.inboundExternalId)

/-- The plan with one more remote inbound. -/
def TopologyPlan.add (plan : TopologyPlan) (r : RemoteInbound) :
    Except SkipReason LocalInbound → TopologyPlan
  | .ok row => { plan with updates := plan.updates ++ [⟨row, r⟩] }
  | .error reason => { plan with skipped := plan.skipped ++ [⟨r, reason⟩] }

/-- `plan_updates`. -/
def planUpdates (rows : List LocalInbound) (remotes : List RemoteInbound) : TopologyPlan :=
  remotes.foldl (fun plan r => plan.add r (matchRemote rows remotes r)) {}

/-! ## `apply_updates` -/

/-- The row after an update. -/
def RemoteInbound.applyTo (now : Instant) (r : RemoteInbound) (row : LocalInbound) : LocalInbound :=
  let row := { row with
    xuiNodeId := r.nodeExternalId
    xuiNodeName := r.nodeName
    xuiSource := r.source }
  { row with
    xuiRemoteKey := if r.remoteKey = "" then row.xuiRemoteScopeKey else r.remoteKey
    isSyncedFromNode := r.nodeExternalId ≠ ""
    lastSyncedAt := some now }

@[simp] theorem RemoteInbound.pk_applyTo (now : Instant) (r : RemoteInbound) (row : LocalInbound) :
    (r.applyTo now row).pk = row.pk := rfl

/-- `apply_updates`. -/
def applyUpdates (engine : Engine) (now : Instant) (t : InboundTable)
    (updates : List TopologyUpdate) : Except SyncError InboundTable :=
  updates.foldlM (fun t u => t.save engine u.inbound.pk (u.remote.applyTo now)
    (u.remote.pk_applyTo now)) t

/-! ## `create_missing_inbounds` -/

/-- `str.isdigit`. -/
def isDigitText (s : String) : Bool := s ≠ "" && s.toList.all isDigitChar

/-- `int` of a text that `isdigit` holds of. -/
def intOfDigitText (s : String) : Option ℕ :=
  if s.toList.all isDecimal ∧ s.length ≤ 4300 then some (intOfDigits s.toList) else none

/-- `s[:n]`. -/
def sliceText (n : ℕ) (s : String) : String := String.ofList (s.toList.take n)

/-- `value or otherwise`, as a text. -/
def orElseText (rt : Runtime) (v : Json) (otherwise : String) : String :=
  if v.truthy then rt.strOf v else otherwise

/-- `text or otherwise`. -/
def textOr (text otherwise : String) : String := if text = "" then otherwise else text

section Create

variable (rt : Runtime) (options : SyncOptions)

/-- The row that `create_missing_inbounds` creates. -/
def newInbound (r : RemoteInbound) (inboundId pk : ℕ) : LocalInbound :=
  let idText := strip r.inboundExternalId
  let nodeId := strip r.nodeExternalId
  let protocol := textOr (rt.lower (textOr r.protocol (orElseText rt (field r.raw "protocol")
    "vless"))) "vless"
  { pk
    panel := options.panel
    inboundId
    remark := sliceText 150 (textOr r.remark (orElseText rt (field r.raw "remark")
      ("Remote inbound " ++ idText)))
    protocol
    serverIp := sliceText 100 (textOr r.managedShareAddress (orElseText rt (field r.raw "shareAddr")
      (orElseText rt (field r.raw "listen") (textOr r.nodeAddress options.fallbackHost))))
    port := sliceText 10 (orElseText rt (field r.raw "port") "")
    configParams := "type=tcp&security=none"
    isActive := r.active ≠ some false
    availableForNewOrders :=
      options.availableForNewOrders && ["vless", "vmess", "trojan"].contains protocol
    healthMonitorEnabled := true
    xuiNodeId := nodeId
    xuiNodeName := sliceText 150 r.nodeName
    xuiSource := r.source
    xuiRemoteKey := r.remoteKey
    isSyncedFromNode := nodeId ≠ ""
    lastSyncedAt := some options.now }

/-- A skipped inbound for which a row is looked up or created. -/
def CreatesFor (s : TopologySkip) : Bool :=
  s.reason = .missing && !(options.activeOnly && s.remote.active == some false) &&
    isDigitText (strip s.remote.inboundExternalId)

/-- `get_or_create` for a skipped inbound, and how many rows it created. -/
def createMissing (t : InboundTable) (r : RemoteInbound) : Except SyncError (InboundTable × ℕ) :=
  match intOfDigitText (strip r.inboundExternalId) with
  | none => .error .valueError
  | some inboundId =>
      if (options.panel, strip r.nodeExternalId, inboundId) ∈
          t.rows.map LocalInbound.remoteScope then
        .ok (t, 0)
      else
        (t.create options.engine (newInbound rt options r inboundId) fun _ => rfl).map (·, 1)

/-- What the loop of `create_missing_inbounds` does with a skipped inbound. -/
def createStep (state : InboundTable × ℕ) (s : TopologySkip) :
    Except SyncError (InboundTable × ℕ) :=
  if CreatesFor options s then
    (createMissing rt options state.1 s.remote).map fun result => (result.1, state.2 + result.2)
  else .ok state

/-- `create_missing_inbounds`. -/
def createMissingInbounds (t : InboundTable) (skipped : List TopologySkip) :
    Except SyncError (InboundTable × ℕ) :=
  skipped.foldlM (createStep rt options) (t, 0)

/-- A run: the rows after it, and how many were created. -/
def syncTopology (remotes : List RemoteInbound) (t : InboundTable) :
    Except SyncError (InboundTable × ℕ) := do
  let planned := planUpdates (t.ofPanel options.panel) remotes
  let t ← applyUpdates options.engine options.now t planned.updates
  createMissingInbounds rt options t planned.skipped

end Create

end Qasedak.Panels

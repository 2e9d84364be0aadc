import Qasedak.Foundation.Grouping
import Qasedak.Panels.PanelJson
import Qasedak.Panels.XuiApi
import Mathlib.Data.List.Infix
import Mathlib.Data.List.Sort

/-! `store/vpn_client_reconciliation_services.py`: the clients of the shop are compared with
the inbounds of its panels, and each client's row records what the comparison found. -/

namespace Qasedak.Reconciliation

open Foundation Store Orders Panels

/-! ## Scope -/

/-- `FRESH_RESULT_TTL`. -/
def freshResultTtl : Instant := minutes 30

/-- `vpn_client.inbound` and its panel. -/
def clientInbound (db : Db) (c : VPNClient) : Option (Inbound × Panel) :=
  (c.inbound.bind db.inbounds.get?).bind fun i => (db.panels.get? i.panel).map fun p => (i, p)

/-- `(vpn_client.xui_node_id or inbound.xui_node_id or "").strip()`. -/
def clientNodeId (c : VPNClient) (i : Inbound) : String :=
  strip (if c.xuiNodeId = "" then i.xuiNodeId else c.xuiNodeId)

/-- `safe_remote_scope`; none is the empty dict. -/
def safeRemoteScope (db : Db) (c : VPNClient) : Option RemoteScope :=
  (clientInbound db c).map fun (i, p) =>
    { panelId := p.pk
      inboundPk := i.pk
      inboundId := i.inboundId
      nodeId := clientNodeId c i
      remoteScopeKey := inboundRemoteKey i }

/-- `remote_status_is_fresh`. -/
def remoteStatusIsFresh (c : VPNClient) (now : Instant) : Bool :=
  match c.lastRemoteCheck.checkedAt with
  | none => false
  | some checkedAt => now - freshResultTtl ≤ checkedAt

/-- `remote_scope_matches_latest_check`. -/
def remoteScopeMatchesLatestCheck (db : Db) (c : VPNClient) : Bool :=
  (safeRemoteScope db c).isSome && c.lastRemoteCheck.scope = safeRemoteScope db c

/-- `remote_status_is_cleanup_eligible`. -/
def remoteStatusIsCleanupEligible (db : Db) (c : VPNClient) (now : Instant) : Bool :=
  c.lastRemoteCheck.status = .remoteMissing && remoteStatusIsFresh c now &&
    remoteScopeMatchesLatestCheck db c

/-- `ScopeKey`. -/
structure ScopeKey where
  panelId : ℕ
  nodeId : String
  inboundId : ℕ
  inboundPk : ℕ
  deriving DecidableEq, Repr

/-- `_scope_key_for_client`. -/
def scopeKeyForClient (db : Db) (c : VPNClient) : Option ScopeKey :=
  (clientInbound db c).bind fun (i, p) =>
    if i.inboundId = 0 then none
    else some
      { panelId := p.pk
        nodeId := clientNodeId c i
        inboundId := i.inboundId
        inboundPk := i.pk }

/-- The columns that `build_reconciliation_candidates` orders by. -/
def candidateColumns (db : Db) (c : VPNClient) : ℕ × String × ℕ × ℕ :=
  match c.inbound.bind db.inbounds.get? with
  | none => (0, "", 0, c.pk)
  | some i => (i.panel, i.xuiNodeId, i.inboundId, c.pk)

/-- The order of those columns. -/
def columnsBefore (a b : ℕ × String × ℕ × ℕ) : Bool :=
  a.1 < b.1 || (a.1 = b.1 && (a.2.1 < b.2.1 || (a.2.1 = b.2.1 &&
    (a.2.2.1 < b.2.2.1 || (a.2.2.1 = b.2.2.1 && a.2.2.2 ≤ b.2.2.2)))))

/-- `build_reconciliation_candidates`. -/
def buildReconciliationCandidates (db : Db) (queryset : VPNClient → Bool) : List VPNClient :=
  (db.clients.rows.filter fun c => queryset c && !c.isDeleted).insertionSort fun c d =>
    columnsBefore (candidateColumns db c) (candidateColumns db d) = true

/-- `group_clients_by_remote_scope`: the groups, and the clients without a scope. -/
def groupClientsByRemoteScope (db : Db) (clients : List VPNClient) :
    List (ScopeKey × List VPNClient) × List VPNClient :=
  (groupOn (scopeKeyForClient db) clients,
    clients.filter fun c => scopeKeyForClient db c = none)

/-! ## The read of one scope -/

/-- `part in text`. -/
def containsText (text part : String) : Bool := part.toList <:+: text.toList

/-- `_status_from_exception`, with the safe text. -/
def statusFromException (rt : Runtime) (panel : ℕ) : XuiException → RemoteCheckStatus × String
  | .ambiguousScope text => (.ambiguous, rt.safeError panel text)
  | .unknownSafeMode text => (.unknown, rt.safeError panel text)
  | .network => (.panelUnreachable, "Panel/network connection failed.")
  | .other text =>
      let lowered := rt.lower text
      if ["not found", "record not found", "404"].any (containsText lowered) then
        (.inboundMissing, rt.safeError panel text)
      else if ["timeout", "connection", "proxy", "login", "auth"].any (containsText lowered) then
        (.panelUnreachable, rt.safeError panel text)
      else (.unknown, rt.safeError panel text)

/-- The `index` of a remote row: which client or traffic row it was made of. -/
inductive RowIndex where
  | client (index : ℕ)
  | stats (index : ℕ)
  deriving DecidableEq, Repr

/-- A row that local clients are compared with. -/
structure RemoteRow where
  index : RowIndex
  values : List String
  valuesLower : List String
  remoteKeys : List String
  enabled : Option Bool
  deriving DecidableEq, Repr

/-- `_remote_values_from_sources`. -/
def remoteValuesFromSources (rt : Runtime) (sources : List JsonObject) : List String :=
  sources.flatMap fun source =>
    lookupValues rt source ++
      ["remark", "name"].flatMap fun key => strippedText (stringOf rt (field source key))

/-- `_remote_keys_for_values`. -/
def remoteKeysForValues (i : Inbound) (values : List String) : List String :=
  (values.filter fun v => strip v ≠ "").map (buildRemoteClientKey i)

/-- The row made of some sources and of the normalised client. -/
def remoteRow (rt : Runtime) (i : Inbound) (index : RowIndex) (sources : List JsonObject)
    (normalized : XUIClient) : RemoteRow :=
  let values := remoteValuesFromSources rt
    (sources ++ [[("id", .str normalized.remoteClientId)]])
  { index := index
    values := values
    valuesLower := values.map rt.lower
    remoteKeys := remoteKeysForValues i values
    enabled := normalized.enabled }

/-- The row of a client, with the traffic row that belongs to it. -/
def clientRow (rt : Runtime) (i : Inbound) (stats : List JsonObject) (client : JsonObject × ℕ) :
    RemoteRow :=
  remoteRow rt i (.client client.2)
    (client.1 :: ((relatedClientStats rt stats client.1).bind (stats[·]?)).toList)
    (normalizeClient rt client.1)

/-- The row of a traffic row that belongs to no client. -/
def statsRow (rt : Runtime) (i : Inbound) (stats : JsonObject × ℕ) : RemoteRow :=
  remoteRow rt i (.stats stats.2) [stats.1] (normalizeClient rt stats.1)

/-- `consumed_stats`: the traffic rows that belong to a client. -/
def consumedStats (rt : Runtime) (stats : List JsonObject) (clients : List JsonObject) : List ℕ :=
  clients.filterMap (relatedClientStats rt stats)

/-- The traffic rows that no client has, with their positions. -/
def looseStats (rt : Runtime) (stats : List JsonObject) (clients : List JsonObject) :
    List (JsonObject × ℕ) :=
  stats.zipIdx.filter fun s => !(consumedStats rt stats clients).contains s.2

/-- `settings.get("clients") or []`; none where that is not a list. -/
def settingsClients (rt : Runtime) (data : JsonObject) : Option (List Json) :=
  match field (parseXuiJsonObject rt (field data "settings")) "clients" with
  | .arr items => some items
  | v => if v.truthy then none else some []

/-- `_normalize_remote_clients`: the rows and whether they are complete; none where a row
does not convert. The code also asks whether the settings are a dict, which they are for
every answer. -/
def normalizeRemoteClients (rt : Runtime) (i : Inbound) (data : JsonObject) :
    Option (List RemoteRow × Bool) :=
  match settingsClients rt data with
  | none => some ([], false)
  | some items =>
      let stats := parseXuiClientStats rt data
      let clients := indexedObjects items
      let loose := looseStats rt stats (clients.map Prod.fst)
      if (clients ++ loose).all fun row => rt.converts row.1 then
        some (clients.map (clientRow rt i stats) ++ loose.map (statsRow rt i), true)
      else none

/-- `ScopeFetchResult`. -/
structure ScopeFetchResult where
  status : RemoteCheckStatus
  remoteClients : List RemoteRow := []
  error : String := ""
  complete : Bool := false
  deriving DecidableEq, Repr

/-- The guarded part of `fetch_remote_scope_clients`. Its scope check refuses a read only
because the scope is ambiguous. -/
def readScope (rt : Runtime) (db : Db) (p : Panel) (i : Inbound) (answer : PanelAnswer) :
    Except XuiException Json :=
  match assertPreciseScope db p i "" .read with
  | .error text => .error (.ambiguousScope text)
  | .ok () => getInbound rt answer

/-- `fetch_remote_scope_clients`; none where an error leaves it. -/
def fetchRemoteScopeClients (rt : Runtime) (db : Db) (p : Panel) (i : Inbound)
    (answer : PanelAnswer) : Option ScopeFetchResult :=
  match readScope rt db p i answer with
  | .error e =>
      let (status, error) := statusFromException rt p.pk e
      some { status := status, error := error }
  | .ok (.obj data) =>
      (normalizeRemoteClients rt i data).map fun (rows, complete) =>
        if complete then { status := .remoteActive, remoteClients := rows, complete := true }
        else
          { status := .unknown
            error := "Panel response did not include a complete client list." }
  -- `obj` is a text, a number or a list, and has no `get`
  | .ok _ => none

/-! ## Matching -/

/-- `_local_identity_values`. -/
def localIdentityValues (c : VPNClient) : List String :=
  [c.uuid.getD "", c.xuiEmail, c.username, c.subId].flatMap strippedText

/-- A remote row is the local client. -/
def matchesRow (rt : Runtime) (c : VPNClient) (row : RemoteRow) : Bool :=
  (strip c.remoteClientKey ≠ "" && row.remoteKeys.contains (strip c.remoteClientKey)) ||
    (localIdentityValues c).any fun v => row.valuesLower.contains (rt.lower v)

/-- `match_local_client_to_remote`. No two rows have one index. -/
def matchLocalClientToRemote (rt : Runtime) (c : VPNClient) (rows : List RemoteRow) :
    RemoteCheckStatus × String :=
  if localIdentityValues c = [] ∧ strip c.remoteClientKey = "" then
    (.unknown, "Local client has no safe remote identity.")
  else
    match rows.filter (matchesRow rt c) with
    | [] => (.remoteMissing, "")
    | [row] => if row.enabled = some false then (.remoteDisabled, "") else (.remoteActive, "")
    | _ => (.ambiguous, "Multiple remote clients matched the same local identity.")

/-! ## The check -/

/-- What a check found out about a client. -/
structure ClientCheck where
  client : VPNClient
  status : RemoteCheckStatus
  error : String := ""
  deriving DecidableEq, Repr

/-- The identity and the time of a check. -/
structure Batch where
  batchId : String
  checkedAt : Instant
  deriving DecidableEq, Repr

/-- The record that `_persist_check_result` writes. -/
def checkRecord (read : Db) (batch : Batch) (check : ClientCheck) : RemoteCheck where
  status := check.status
  checkedAt := some batch.checkedAt
  error := String.ofList (check.error.toList.take 300)
  scope := safeRemoteScope read check.client
  batchId := batch.batchId

/-- `_persist_check_result`; the scope is that of the client as it was read. -/
def persistCheckResult (read : Db) (batch : Batch) (db : Db) (check : ClientCheck) : Db :=
  db.setClient check.client.pk
    (fun c => { c with lastRemoteCheck := checkRecord read batch check }) fun _ => rfl

/-- The results of some clients are persisted, if they are to be. -/
def persistChecks (persist : Bool) (read : Db) (batch : Batch) (checks : List ClientCheck)
    (db : Db) : Db :=
  if persist then checks.foldl (persistCheckResult read batch) db else db

/-- The checks of one group, and the errors to report; none where an error leaves it. The
group's first client gives the inbound and the panel that are asked. -/
def checkGroup (rt : Runtime) (read db : Db) (clients : List VPNClient) (answer : PanelAnswer) :
    Option (List ClientCheck × List String) :=
  match clients.head?.bind (clientInbound read) with
  | none => some ([], [])
  | some (i, p) =>
      (fetchRemoteScopeClients rt db p i answer).map fun result =>
        if result.status ≠ .remoteActive ∨ ¬ result.complete then
          (clients.map fun c => ⟨c, result.status, result.error⟩,
            if result.error = "" then [] else [result.error])
        else
          (clients.map fun c =>
            let found := matchLocalClientToRemote rt c result.remoteClients
            ⟨c, found.1, found.2⟩, [])

/-- What happens while a scope is read: what others write to the shop until the answer is
there, and the answer. -/
structure Visit where
  meanwhile : Db → Db := id
  answer : PanelAnswer

/-- What a check of many clients leaves behind. -/
structure ReconciliationRun where
  db : Db
  /-- In the order in which they were made. -/
  checks : List ClientCheck := []
  errors : List String := []
  /-- An error left the check, and the remaining scopes were not read. -/
  raised : Bool := false

/-- The loop over the groups. -/
def checkGroups (rt : Runtime) (visits : ScopeKey → Visit) (persist : Bool) (read : Db)
    (batch : Batch) : List (ScopeKey × List VPNClient) → Db → ReconciliationRun
  | [], db => { db := db }
  | (key, clients) :: groups, db =>
      let visited := (visits key).meanwhile db
      match checkGroup rt read visited clients (visits key).answer with
      | none => { db := visited, raised := true }
      | some (checks, errors) =>
          let rest := checkGroups rt visits persist read batch groups
            (persistChecks persist read batch checks visited)
          { rest with checks := checks ++ rest.checks, errors := errors ++ rest.errors }

/-- The check of a client without a scope. -/
def unscopedCheck (c : VPNClient) : ClientCheck where
  client := c
  status := .unknown
  error := "Local client is missing exact panel/inbound scope."

/-- `reconcile_vpn_clients`. -/
def reconcileVpnClients (rt : Runtime) (visits : ScopeKey → Visit) (persist : Bool)
    (batch : Batch) (queryset : VPNClient → Bool) (db : Db) : ReconciliationRun :=
  let grouped := groupClientsByRemoteScope db (buildReconciliationCandidates db queryset)
  let unscoped := grouped.2.map unscopedCheck
  let run := checkGroups rt visits persist db batch grouped.1
    (persistChecks persist db batch unscoped db)
  { run with checks := unscoped ++ run.checks }

end Qasedak.Reconciliation

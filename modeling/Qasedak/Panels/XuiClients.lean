import Qasedak.Panels.Platform
import Qasedak.Panels.XuiApi

/-! The clients that the shop looks up, creates and enables on an X-UI panel:
`lookup_existing_remote_client` and the `create_…` and `enable_client` of `store/xui_api.py`. -/

namespace Qasedak.Panels

open Foundation Store Orders

/-- What is known of a client once it was found or created. -/
structure ClientResult where
  uuid : String
  email : String
  subId : String
  subLink : String
  directLink : String
  expiresAt : Option Instant
  remoteClientKey : String
  deriving DecidableEq, Repr

variable (platform : Platform)

/-! ## Lookup -/

/-- `_remote_candidate_values`; the order of a Python set does not matter below. -/
def remoteCandidateValues (identity : ClientIdentity) : List String :=
  [strip identity.uuid, strip identity.email, strip identity.subId].filter (· ≠ "")

def remoteClientIds (c : RemoteClient) : String × String × String :=
  (strip c.id, strip c.email, strip c.subId)

/-- `_matches_remote_client`: for each value the first client that has it, and no client
twice. -/
def matchesRemoteClient (clients : List RemoteClient) (values : List String) :
    List RemoteClient :=
  (values.filterMap fun value => clients.find? (matchClientIdentifier · value)).pwFilter
    fun c d => remoteClientIds c ≠ remoteClientIds d

/-- `_client_result_from_remote`. -/
def clientResultFromRemote (i : Inbound) (identity : ClientIdentity) (c : RemoteClient) :
    ClientResult :=
  let uuid := strip (if c.id = "" then identity.uuid else c.id)
  let email := strip (if c.email = "" then identity.email else c.email)
  let subId := strip (if c.subId = "" then identity.subId else c.subId)
  { uuid := uuid
    email := email
    subId := subId
    subLink := if subId = "" then "" else platform.subBaseUrl i ++ "/sub/" ++ subId
    directLink := platform.directLink i c
    expiresAt := parseXuiDatetime c.expiryTime
    remoteClientKey := buildRemoteClientKey i uuid }

/-- What `lookup_existing_remote_client` finds on a panel. -/
def findExistingRemoteClient (i : Inbound) (identity : ClientIdentity) (requireEnabled : Bool)
    (r : Remote) : Except String (Option ClientResult) :=
  match matchesRemoteClient (r.inboundClients i.panel i.inboundId)
      (remoteCandidateValues identity) with
  | [] => .ok none
  | [c] =>
      if requireEnabled ∧ ¬ c.enable then .error "Remote client exists but is not enabled."
      else .ok (some (clientResultFromRemote platform i identity c))
  | _ => .error "ambiguous_remote_client"

/-- The inbound as `XUIService(panel)` asks for it. -/
def onPanel (p : Panel) (i : Inbound) : Inbound := { i with panel := p.pk }

/-- `lookup_existing_remote_client`. -/
def lookupExistingRemoteClient (p : Panel) (i : Inbound) (identity : ClientIdentity)
    (requireEnabled : Bool) : ShopM (Option ClientResult) :=
  Prog.remoteRead timedOut (findExistingRemoteClient platform (onPanel p i) identity requireEnabled)

/-! ## Creation -/

/-- What a client is created with. -/
structure ClientRequest where
  identity : ClientIdentity
  totalBytes : ℕ
  durationDays : ℕ
  limitIp : ℕ
  deriving DecidableEq, Repr

/-- `resolve_inbound_panel(inbound, panel, require_active=True)` on an inbound and its panel. -/
def assertActive (i : Inbound) (p : Panel) : Except String Unit :=
  if i.panel ≠ p.pk then .error "Provided panel does not match inbound.panel."
  else if ¬ i.isActive then .error "Inbound is inactive."
  else if ¬ p.isActive then .error "Inbound panel is inactive."
  else .ok ()

/-- The payload of an enabled client. -/
def enabledClient (now : Instant) (i : Inbound) (request : ClientRequest) : RemoteClient where
  panel := i.panel
  inbound := i.inboundId
  id := request.identity.uuid
  email := strip request.identity.email
  subId := request.identity.subId
  enable := true
  expiryTime := currentMs now + request.durationDays * 24 * 3600000
  totalGB := request.totalBytes
  limitIp := request.limitIp

/-- The result of a creation on one inbound. -/
def createdResult (now : Instant) (i : Inbound) (request : ClientRequest) (c : RemoteClient) :
    ClientResult where
  uuid := request.identity.uuid
  email := strip request.identity.email
  subId := request.identity.subId
  subLink := platform.subBaseUrl i ++ "/sub/" ++ request.identity.subId
  directLink := platform.directLink i c
  expiresAt := parseXuiDatetime (enabledClient now i request).expiryTime
  remoteClientKey := buildRemoteClientKey i request.identity.uuid

/-- The client that a creation reads back: by its uuid, else by its e-mail. -/
def findCreatedClient (i : Inbound) (identity : ClientIdentity) (missing disabled : String)
    (r : Remote) : Except String RemoteClient :=
  let clients := r.inboundClients i.panel i.inboundId
  match clients.find? (matchClientIdentifier · identity.uuid) <|>
      clients.find? (matchClientIdentifier · (strip identity.email)) with
  | none => .error missing
  | some c => if c.enable then .ok c else .error disabled

/-- `create_enabled_client`. -/
def createEnabledClient (now : Instant) (p : Panel) (i : Inbound) (request : ClientRequest) :
    ShopM ClientResult := do
  let db ← Prog.readDb id
  Prog.ofExcept (assertActive i p)
  Prog.ofExcept (assertPreciseScope db p i "" .create)
  Prog.remoteWrite timedOut (.createClient i.panel [i.inboundId] request.identity.uuid)
    (Remote.createClient i.panel [i.inboundId] (enabledClient now i request))
  let c ← Prog.remoteRead timedOut (findCreatedClient i request.identity
    "Client creation could not be verified on panel."
    "Client was created but is not enabled on panel.")
  return createdResult platform now i request c

/-- `create_enabled_client_details`: none where an error was caught. -/
def createEnabledClientDetails (now : Instant) (p : Panel) (i : Inbound)
    (request : ClientRequest) : ShopM (Option ClientResult) :=
  Prog.onError (do
    let result ← createEnabledClient platform now p i request
    return some result) fun _ => return none

/-- The checks of `create_enabled_multi_inbound_client`, on one inbound. -/
def assertBundleInbound (db : Db) (p : Panel) (i : Inbound) : Except String Unit :=
  match assertActive i p with
  | .error e => .error e
  | .ok () => assertPreciseScope db p i "" .create

def assertBundle (db : Db) (p : Panel) : List Inbound → Except String Unit
  | [] => .ok ()
  | i :: inbounds =>
      match assertBundleInbound db p i with
      | .error e => .error e
      | .ok () => assertBundle db p inbounds

/-- `create_enabled_multi_inbound_client`: one request for all inbounds, read back on each. -/
def createEnabledMultiInboundClient (now : Instant) (p : Panel) (inbounds : List Inbound)
    (request : ClientRequest) : ShopM (List ClientResult) := do
  let db ← Prog.readDb id
  let first ← Prog.orRaise "At least one inbound is required for multi-inbound create."
    inbounds.head?
  if inbounds.any (·.panel ≠ p.pk) then
    Prog.raise "All bundle inbounds must belong to the same panel."
  else do
    Prog.ofExcept (assertBundle db p inbounds)
    if p.capabilityProfile ≠ .modernMultiNode then
      Prog.raise "Multi-inbound create requires a modern multi-node panel."
    else do
      Prog.remoteWrite timedOut
        (.createClient p.pk (inbounds.map (·.inboundId)) request.identity.uuid)
        (Remote.createClient p.pk (inbounds.map (·.inboundId)) (enabledClient now first request))
      Prog.forEach inbounds [] fun i results => do
        let c ← Prog.remoteRead timedOut (findCreatedClient i request.identity
          "Client creation could not be verified on every bundle inbound."
          "Client was created but is not enabled on every bundle inbound.")
        return results ++ [createdResult platform now i request c]

/-- `create_enabled_multi_inbound_client_details`. -/
def createEnabledMultiInboundClientDetails (now : Instant) (p : Panel) (inbounds : List Inbound)
    (request : ClientRequest) : ShopM (Option (List ClientResult)) :=
  Prog.onError (do
    let results ← createEnabledMultiInboundClient platform now p inbounds request
    return some results) fun _ => return none

/-- The payload of `create_inactive_client`. -/
def inactiveClient (now : Instant) (i : Inbound) (request : ClientRequest) : RemoteClient :=
  { enabledClient now i request with
    email := request.identity.email
    enable := false
    expiryTime := 0 }

/-- `create_inactive_client`; the modern API has no disabled clients. -/
def createInactiveClient (now : Instant) (p : Panel) (i : Inbound) (request : ClientRequest) :
    ShopM ClientResult := do
  let db ← Prog.readDb id
  Prog.ofExcept (assertActive i p)
  Prog.ofExcept (assertPreciseScope db p i "" .create)
  if usesModernClientApi p then
    Prog.raise
      "Official 3X-UI client API cannot safely create a disabled client; refusing create-inactive."
  else do
    Prog.remoteWrite timedOut (.createClient i.panel [i.inboundId] request.identity.uuid)
      (Remote.createClient i.panel [i.inboundId] (inactiveClient now i request))
    Prog.remoteRead timedOut fun _ => .ok ()
    return { createdResult platform now i request (inactiveClient now i request) with
      email := request.identity.email }

/-- `create_inactive_client_details`. -/
def createInactiveClientDetails (now : Instant) (p : Panel) (i : Inbound)
    (request : ClientRequest) : ShopM (Option ClientResult) :=
  Prog.onError (do
    let result ← createInactiveClient platform now p i request
    return some result) fun _ => return none

/-! ## Enabling -/

/-- `update_client_enabled`. -/
def updateClientEnabled (now : Instant) (c : VPNClient) : ShopM Unit := do
  let db ← Prog.readDb id
  let (i, p) ← Prog.ofExcept (resolveInboundPanel db c.inbound true)
  Prog.ofExcept (assertPreciseScope db p i (c.uuid.getD "") .enable)
  let target ← Prog.remoteRead timedOut fun r =>
    match (r.inboundClients i.panel i.inboundId).find? (fun t => some t.id = c.uuid) with
    | some t => .ok t
    | none => .error "Client UUID was not found on the panel."
  -- An earlier activation may have succeeded before its answer was lost.
  if target.enable ∧ 0 < target.expiryTime then return
  else do
    let plan ← Prog.orRaise "'NoneType' object has no attribute 'duration_days'"
      (c.plan.bind db.plans.get?)
    let email := strip (if target.email = "" then c.username else target.email)
    let payload : RemoteClient :=
      { target with enable := true, expiryTime := currentMs now + daysToMs plan.durationDays }
    Prog.remoteWrite timedOut (.enableClient i.panel i.inboundId (c.uuid.getD ""))
      (Remote.updateClient (usesModernClientApi p) i.panel i.inboundId (c.uuid.getD "") email
        payload)

/-- `enable_client`: false where an error was caught. -/
def enableClient (now : Instant) (c : VPNClient) : ShopM Bool :=
  Prog.onError (do
    updateClientEnabled now c
    return true) fun _ => return false

end Qasedak.Panels

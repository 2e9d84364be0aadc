import Qasedak.Orders.Db
import Qasedak.Store.Naming

/-! `store/xui_api.py` and the scope check of `store/xui_compat`: what the shop asks of
an X-UI panel, and when it refuses to ask. -/

namespace Qasedak.Panels

open Foundation Store Orders

/-- The text of a request whose answer did not arrive. -/
def timedOut : String := "Panel request timed out."

/-! ## Scope -/

/-- The operations that `assert_precise_client_scope` guards. -/
inductive ScopeOperation where
  | read
  | create
  | update
  | delete
  | enable
  | renew
  deriving DecidableEq, Repr

/-- `resolve_inbound_panel`. -/
def resolveInboundPanel (db : Db) (inbound : Option ℕ) (requireActive : Bool) :
    Except String (Inbound × Panel) :=
  match inbound.bind db.inbounds.get? with
  | none => .error "Inbound is required for panel operation."
  | some i =>
      match db.panels.get? i.panel with
      | none => .error "Inbound is not linked to a panel."
      | some p =>
          if requireActive ∧ ¬ i.isActive then .error "Inbound is inactive."
          else if requireActive ∧ ¬ p.isActive then .error "Inbound panel is inactive."
          else .ok (i, p)

theorem resolveInboundPanel_ok {db : Db} {inbound : Option ℕ} {requireActive : Bool}
    {i : Inbound} {p : Panel} (h : resolveInboundPanel db inbound requireActive = .ok (i, p)) :
    inbound.bind db.inbounds.get? = some i ∧ db.panels.get? i.panel = some p := by
  unfold resolveInboundPanel at h
  split at h
  · cases h
  rename_i j hj
  split at h
  · cases h
  rename_i q hq
  split_ifs at h
  obtain ⟨rfl, rfl⟩ := Prod.mk.inj (Except.ok.inj h)
  exact ⟨hj, hq⟩

/-- The panel offers the client API of 3X-UI 3. -/
def usesModernClientApi (p : Panel) : Bool :=
  p.capabilityProfile = .modernSingleNode || p.capabilityProfile = .modernMultiNode

/-- Django's `iexact`. -/
def iexact (a b : String) : Bool :=
  a.toList.map Char.toLower == b.toList.map Char.toLower

/-- `inbound_node_id(inbound) or "local"`. -/
def inboundNodeId (i : Inbound) : String :=
  if strip i.xuiNodeId = "" then "local" else strip i.xuiNodeId

/-- `inbound_remote_key`. -/
def inboundRemoteKey (i : Inbound) : String :=
  if strip i.xuiRemoteKey = "" then
    ":".intercalate [toString i.panel, inboundNodeId i, toString i.inboundId]
  else strip i.xuiRemoteKey

/-- `build_remote_client_key`. -/
def buildRemoteClientKey (i : Inbound) (identity : String) : String :=
  ":".intercalate [toString i.panel, inboundNodeId i, toString i.inboundId, strip identity]

/-- `local_scope_conflicts`: other inbounds of the panel under one remote id. -/
def localScopeConflicts (db : Db) (i : Inbound) : List Inbound :=
  db.inbounds.rows.filter fun j =>
    j.panel = i.panel ∧ j.inboundId = i.inboundId ∧ j.pk ≠ i.pk

/-- `local_client_matches`. -/
def localClientMatches (db : Db) (i : Inbound) (identifier : String) : List VPNClient :=
  if identifier = "" then []
  else db.clients.rows.filter fun c =>
    c.inbound = some i.pk ∧ c.status ≠ .deleted ∧ ¬ c.isSoftDeleted ∧
      (iexact (c.uuid.getD "") identifier || iexact c.xuiEmail identifier ||
        iexact c.username identifier || iexact c.subId identifier ||
        iexact c.remoteClientKey (buildRemoteClientKey i identifier))

/-- `assert_precise_client_scope`. -/
def assertPreciseScope (db : Db) (p : Panel) (i : Inbound) (identifier : String)
    (operation : ScopeOperation) : Except String Unit :=
  if p.capabilityProfile = .unknownSafe ∧ operation ≠ .read then
    .error "X-UI compatibility is unknown; destructive operation refused."
  else if i.panel ≠ p.pk then .error "Operation scope must include a panel-owned inbound."
  else if i.isSynchronizedNode ∧ strip i.xuiNodeId = "" then
    .error "Synchronized node inbound is missing node identity."
  else if localScopeConflicts db i ≠ [] ∧ (¬ usesModernClientApi p ∨ strip i.xuiNodeId = "") then
    .error "Inbound ID is ambiguous across node scopes."
  else if 1 < (localClientMatches db i identifier).length then
    .error "Client identifier matches multiple local records in this scope."
  else .ok ()

/-- `_assert_modern_email_single_attachment`: the modern API addresses a client by its
e-mail on every inbound, so the client must be attached to this one alone. -/
def assertSingleAttachment (i : Inbound) (email : String) : ShopM Unit :=
  Prog.remoteRead timedOut fun r =>
    if r.attachments i.panel email = [i.inboundId] then .ok ()
    else .error "Modern 3X-UI scope could not be verified from client attachments."

/-! ## Renewal -/

def daysToMs (days : ℕ) : ℤ := days * 86400000

/-- `int(time.time() * 1000)`. -/
def currentMs (now : Instant) : ℤ := now / 1000

/-- `parse_xui_datetime`: milliseconds, or seconds where the number is small. -/
def parseXuiDatetime (value : ℤ) : Option Instant :=
  if value ≤ 0 then none
  else if 10000000000 < value then some (value * 1000)
  else some (value * 1000000)

theorem parseXuiDatetime_eq_none {v : ℤ} : parseXuiDatetime v = none ↔ v ≤ 0 := by
  rw [parseXuiDatetime]
  by_cases hv : v ≤ 0
  · simp [hv]
  · by_cases hbig : 10000000000 < v <;> simp [hv, hbig]

/-- What a renewal makes of the panel's client. -/
def renewedClient (target : RemoteClient) (plan : Plan) (expiry : ℤ) : RemoteClient :=
  { target with
    enable := true
    totalGB := plan.trafficLimitBytes
    limitIp := plan.deviceLimit
    expiryTime := expiry }

/-- `vpn_client.xui_email or vpn_client.username`. -/
def serviceEmail (c : VPNClient) : String := if c.xuiEmail = "" then c.username else c.xuiEmail

/-- The client of the inbound that a service is: its uuid, or its e-mail. -/
def findServiceClient (r : Remote) (i : Inbound) (c : VPNClient) : Option RemoteClient :=
  (r.inboundClients i.panel i.inboundId).find? fun t =>
    some t.id = c.uuid ∨ t.email = serviceEmail c

/-- The intent of a first attempt. -/
def newRenewalIntent (c : VPNClient) (i : Inbound) (plan : Plan) (currentTime currentExpiry : ℤ) :
    RenewalIntent where
  clientPk := c.pk
  inboundPk := i.pk
  uuid := c.uuid.getD ""
  previousExpiry := currentExpiry
  targetExpiry := max currentTime currentExpiry + daysToMs plan.durationDays
  totalBytes := plan.trafficLimitBytes
  limitIp := plan.deviceLimit
  durationDays := plan.durationDays
  resetStatus := .pending

/-- The intent was recorded for another client or another plan. -/
def RenewalIntent.Mismatches (intent : RenewalIntent) (c : VPNClient) (i : Inbound) (plan : Plan) :
    Prop :=
  intent.clientPk ≠ c.pk ∨ intent.inboundPk ≠ i.pk ∨ intent.uuid ≠ c.uuid.getD "" ∨
    intent.totalBytes ≠ plan.trafficLimitBytes ∨ intent.limitIp ≠ plan.deviceLimit ∨
    intent.durationDays ≠ plan.durationDays

instance (intent : RenewalIntent) (c : VPNClient) (i : Inbound) (plan : Plan) :
    Decidable (RenewalIntent.Mismatches intent c i plan) :=
  inferInstanceAs (Decidable (_ ∨ _))

/-- The intent of this attempt: the recorded one where it still fits, or a new one. -/
def resolveRenewalIntent (recorded : Option RenewalIntent) (c : VPNClient) (i : Inbound)
    (plan : Plan) (currentTime currentExpiry : ℤ) : Except String RenewalIntent :=
  match recorded with
  | none => .ok (newRenewalIntent c i plan currentTime currentExpiry)
  | some intent =>
      if RenewalIntent.Mismatches intent c i plan then
        .error "مقصد یا پلن تمدید تغییر کرده؛ نتیجه قبلی باید دستی بررسی شود."
      else if currentExpiry ≠ intent.previousExpiry ∧ currentExpiry ≠ intent.targetExpiry then
        .error "نتیجه تمدید روی پنل نامشخص است؛ تمدید دوباره انجام نشد."
      else .ok intent

/-- The panel already shows what the intent asks for. -/
def alreadyUpdated (intent : RenewalIntent) (target : RemoteClient) : Bool :=
  target.expiryTime = intent.targetExpiry && target.totalGB = intent.totalBytes &&
    target.limitIp = intent.limitIp && target.enable

/-- `save_intent`. -/
def saveIntent (now : Instant) (order : ℕ) (intent : RenewalIntent) : ShopM Unit :=
  saveOrder now order
    (fun o => { o with metadata := { o.metadata with renewalIntent := some intent } })
    (fun _ => rfl)

/-- `_post_client_reset_traffic`. -/
def postClientResetTraffic (p : Panel) (i : Inbound) (email : String) : ShopM Unit := do
  if usesModernClientApi p then assertSingleAttachment i email
  Prog.remoteWrite timedOut (.resetTraffic i.panel i.inboundId email)
    (Remote.resetTraffic i.panel i.inboundId email)

/-- `_post_client_update` with the renewed client, unless the panel already shows it. -/
def postRenewal (p : Panel) (i : Inbound) (c : VPNClient) (plan : Plan) (target : RemoteClient)
    (intent : RenewalIntent) : ShopM Unit :=
  if alreadyUpdated intent target then return
  else Prog.remoteWrite timedOut
    (.renewClient i.panel i.inboundId (c.uuid.getD "") intent.targetExpiry)
    (Remote.updateClient (usesModernClientApi p) i.panel i.inboundId (c.uuid.getD "")
      (serviceEmail c) (renewedClient target plan intent.targetExpiry))

/-- The reset of the usage, with the intent saved before and after it. -/
def resetUsage (now : Instant) (p : Panel) (i : Inbound) (c : VPNClient) (order : ℕ)
    (intent : RenewalIntent) : ShopM Unit :=
  if intent.resetStatus = .done then return
  else do
    saveIntent now order { intent with resetStatus := .started }
    postClientResetTraffic p i (serviceEmail c)
    saveIntent now order { intent with resetStatus := .done }

/-- The last part of `update_client_subscription`. -/
def applyRenewalIntent (now : Instant) (p : Panel) (i : Inbound) (c : VPNClient) (plan : Plan)
    (order : ℕ) (target : RemoteClient) (intent : RenewalIntent) : ShopM Unit := do
  saveIntent now order intent
  postRenewal p i c plan target intent
  resetUsage now p i c order intent

/-- `update_client_subscription` for a renewal order; it returns the new expiry. -/
def updateClientSubscription (now : Instant) (c : VPNClient) (plan : Plan) (order : ℕ) :
    ShopM ℤ := do
  let db ← Prog.readDb id
  let (i, p) ← Prog.ofExcept (resolveInboundPanel db c.inbound true)
  Prog.ofExcept (assertPreciseScope db p i (c.uuid.getD "") .renew)
  let target ← Prog.remoteRead timedOut fun r =>
    match findServiceClient r i c with
    | some t => .ok t
    | none => .error "Client UUID was not found on the panel."
  let o ← getOrder order
  let intent ← Prog.ofExcept
    (resolveRenewalIntent o.metadata.renewalIntent c i plan (currentMs now) target.expiryTime)
  if intent.resetStatus = .started then
    Prog.raise "نتیجه صفر کردن مصرف نامشخص است؛ برای جلوگیری از تکرار، پنل را دستی بررسی کنید."
  else if intent.resetStatus = .done ∧ ¬ alreadyUpdated intent target then
    Prog.raise "سرویس پس از تمدید تغییر کرده؛ عملیات تکرار نشد."
  else do
    applyRenewalIntent now p i c plan order target intent
    return intent.targetExpiry

/-- `renew_client`: none where an error was caught. -/
def renewClient (now : Instant) (c : VPNClient) (plan : Plan) (order : ℕ) :
    ShopM (Except String ℤ) :=
  Prog.onError (do
    let expiry ← updateClientSubscription now c plan order
    return .ok expiry) (fun e => return .error e)

/-! ## Deletion -/

/-- What a deletion is about: a client's row, or an order without one. -/
structure DeletionTarget where
  inbound : Option ℕ
  uuid : Option String
  username : String
  xuiEmail : String := ""
  deriving DecidableEq, Repr

def DeletionTarget.email (t : DeletionTarget) : String :=
  if t.xuiEmail = "" then t.username else t.xuiEmail

/-- `match_client_identifier` on the fields that the model has. -/
def matchClientIdentifier (c : RemoteClient) (identifier : String) : Bool :=
  strip identifier ≠ "" && [c.id, c.email, c.subId].any fun value =>
    strip value ≠ "" && iexact (strip value) (strip identifier)

/-- `_find_client_in_inbound`. -/
def findClientInInbound (i : Inbound) (identifier : String) : ShopM RemoteClient :=
  if strip identifier = "" then Prog.raise "Client identifier is required."
  else Prog.remoteRead timedOut fun r =>
    match (r.inboundClients i.panel i.inboundId).find? (matchClientIdentifier · identifier) with
    | some c => .ok c
    | none => .error "Client identifier was not found on this inbound."

/-- `_post_client_delete`; a client that the panel does not have counts as deleted. -/
def postClientDelete (p : Panel) (i : Inbound) (identifier email : String) : ShopM Unit := do
  if usesModernClientApi p then
    if strip email = "" then Prog.raise "Client email is required for modern 3X-UI delete."
    assertSingleAttachment i (strip email)
  Prog.onError
    (Prog.remoteWrite timedOut (.deleteClient i.panel i.inboundId identifier)
      (Remote.deleteClient (usesModernClientApi p) i.panel i.inboundId identifier (strip email)))
    fun e => if e = Remote.clientNotFound then return else Prog.raise e

/-- `delete_client`: false where an error was caught. -/
def xuiDeleteClient (t : DeletionTarget) : ShopM Bool :=
  Prog.onError (do
    let db ← Prog.readDb id
    let (i, p) ← Prog.ofExcept (resolveInboundPanel db t.inbound false)
    Prog.ofExcept (assertPreciseScope db p i (t.uuid.getD "") .delete)
    let identifier := strip (t.uuid.getD "")
    if usesModernClientApi p ∨ t.email = "" then do
      let found ← findClientInInbound i identifier
      postClientDelete p i (if strip found.id = "" then identifier else strip found.id)
        (if found.email = "" then t.email else found.email)
    else postClientDelete p i identifier t.email
    return true) (fun _ => return false)

/-- The delete of the PasarGuard adapter. -/
def deletePasarguardUser (p : Panel) (t : DeletionTarget) : ShopM Bool :=
  if strip t.email = "" then return false
  else Prog.onError (do
    Prog.remoteWrite timedOut (.deleteUser p.pk (strip t.email))
      (Remote.deleteUser p.pk (strip t.email))
    return true) (fun _ => return false)

/-- `delete_panel_client`. -/
def deletePanelClient (t : DeletionTarget) : ShopM Bool := do
  let db ← Prog.readDb id
  match (t.inbound.bind db.inbounds.get?).bind (db.panels.get? ·.panel) with
  | some p => if p.family = .pasarguard then deletePasarguardUser p t else xuiDeleteClient t
  | none => xuiDeleteClient t

end Qasedak.Panels

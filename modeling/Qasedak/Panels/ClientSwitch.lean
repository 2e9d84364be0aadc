import Qasedak.Panels.ReferralTraffic

/-! `set_vpn_client_enabled_by_admin`: a client is switched on or off on its panel, and its
row follows once the panel shows the change. -/

namespace Qasedak.Panels

open Foundation Store Orders

/-- What a client is looked up by. -/
structure ClientLookup where
  panel : ℕ
  inboundId : ℕ
  nodeId : String
  identifier : String
  vpnClient : ℕ
  deriving DecidableEq, Repr

/-- `_lookup_panel_inbound`. -/
def lookupPanelInbound (db : Db) (l : ClientLookup) : Except String (Panel × Inbound × String) :=
  match (db.panels.get? l.panel).filter (·.isActive) with
  | none => .error "پنل این کانفیگ در دسترس نیست."
  | some p =>
      let inbounds := db.inbounds.rows.filter fun i =>
        i.panel = p.pk ∧ i.inboundId = l.inboundId ∧
          (strip l.nodeId = "" ∨ i.xuiNodeId = strip l.nodeId)
      match inbounds with
      | [] => .error "Inbound این کانفیگ پیدا نشد."
      | [i] =>
          if strip l.identifier = "" then .error "شناسه کانفیگ پیدا نشد."
          else .ok (p, i, strip l.identifier)
      | _ => .error "Inbound این کانفیگ بدون node scope دقیق مبهم است."

/-- `find_local_vpn_client_for_lookup` with the key of the row. -/
def findLocalVpnClient (db : Db) (i : Inbound) (vpnClient : ℕ) : Option VPNClient :=
  (db.clients.get? vpnClient).filter fun c => c.inbound = some i.pk && !c.isDeleted

/-- `_client_api_identifier`. -/
def clientApiIdentifier (c : RemoteClient) (identifier : String) : String :=
  if strip c.id = "" then strip identifier else strip c.id

/-- The request to switch a client on or off. -/
def switchCall (i : Inbound) (identifier : String) (enabled : Bool) : RemoteCall :=
  if enabled then .enableClient i.panel i.inboundId identifier
  else .disableClient i.panel i.inboundId identifier

/-- `update_client_traffic_and_expiry` with `enable` alone; it returns what the panel shows
afterwards. -/
def updateClientState (p : Panel) (i : Inbound) (identifier : String) (enabled : Bool) :
    ShopM RemoteClient := do
  let target ← findClientInInbound i identifier
  let apiIdentifier := clientApiIdentifier target identifier
  let db ← Prog.readDb id
  Prog.ofExcept (assertPreciseScope db p i apiIdentifier .update)
  postClientUpdate (switchCall i apiIdentifier enabled) p i apiIdentifier (strip target.email)
    { target with enable := enabled }
  let verified ← findClientInInbound i identifier
  if verified.enable ≠ enabled then Prog.raise "Panel enabled-state update could not be verified."
  return verified

/-- `_sync_local_enabled_state` on the row. -/
def syncLocalEnabledState (verified : RemoteClient) (enabled : Bool) (c : VPNClient) : VPNClient :=
  if c.isDeleted then c
  else
    { c with
      trafficLimitBytes := if verified.totalGB = 0 then c.trafficLimitBytes else verified.totalGB
      expiresAt := (parseXuiDatetime verified.expiryTime).orElse fun _ => c.expiresAt
      status := if enabled then .active else .inactive }

theorem syncLocalEnabledState_pk (verified : RemoteClient) (enabled : Bool) (c : VPNClient) :
    (syncLocalEnabledState verified enabled c).pk = c.pk := by
  rw [syncLocalEnabledState]
  split <;> rfl

/-- `set_vpn_client_enabled_by_admin`. -/
def setVpnClientEnabledByAdmin (l : ClientLookup) (enabled : Bool) : ShopM Unit := do
  let db ← Prog.readDb id
  let (p, i, identifier) ← Prog.ofExcept (lookupPanelInbound db l)
  let verified ← Prog.onError (updateClientState p i identifier enabled) fun _ =>
    Prog.raise "تغییر وضعیت سرویس روی پنل انجام نشد."
  match findLocalVpnClient db i l.vpnClient with
  | none => return
  | some c =>
      saveClient c.pk (syncLocalEnabledState verified enabled)
        (syncLocalEnabledState_pk verified enabled)

end Qasedak.Panels

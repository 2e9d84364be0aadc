import Qasedak.Orders.FrozenScope
import Qasedak.Panels.XuiClients

/-! The rows of delivered services: `create_order_vpn_client` and `_upsert_local_client`. -/

namespace Qasedak.Orders

open Foundation Store Panels

/-- `required_client_count`. -/
def requiredClientCount (o : Order) : ℕ := max o.quantity 1

def orderRequest (plan : Plan) (identity : ClientIdentity) : ClientRequest where
  identity := identity
  totalBytes := plan.trafficLimitBytes
  durationDays := plan.durationDays
  limitIp := plan.deviceLimit

/-- The row of `create_order_vpn_client`. -/
def newOrderClient (db : Db) (o : Order) (plan : Plan) (inbound : Option ℕ) (username : String)
    (result : ClientResult) (status : ClientStatus) : VPNClient where
  pk := db.clients.nextKey
  store := o.store
  order := some o.pk
  plan := some plan.pk
  inbound := inbound
  username := username
  xuiEmail := result.email
  uuid := some result.uuid
  subId := result.subId
  subLink := result.subLink
  directLink := result.directLink
  status := status
  trafficLimitBytes := plan.trafficLimitBytes
  durationDays := plan.durationDays
  deviceLimit := plan.deviceLimit
  remoteClientKey := result.remoteClientKey

theorem newOrderClient_pk (db : Db) (o : Order) (plan : Plan) (inbound : Option ℕ)
    (username : String) (result : ClientResult) (status : ClientStatus) :
    (newOrderClient db o plan inbound username result status).pk = db.clients.nextKey := rfl

/-- The database with the new row. -/
def Db.addClient (db : Db) (o : Order) (plan : Plan) (inbound : Option ℕ) (username : String)
    (result : ClientResult) (status : ClientStatus) : Db :=
  { db with
    clients := db.clients.insert (newOrderClient db o plan inbound username result status)
      (newOrderClient_pk db o plan inbound username result status) }

/-- `Inbound.objects.filter(pk=…).update(current_users=F("current_users") + 1)`. -/
def useInbound (i : Inbound) : Inbound := { i with currentUsers := i.currentUsers + 1 }

@[simp] theorem useInbound_pk (i : Inbound) : (useInbound i).pk = i.pk := rfl

/-- `_local_client_matches`: the order's clients on the inbound with one of the identifiers. -/
def localOrderClientMatches (db : Db) (o : Order) (i : Inbound) (result : ClientResult) :
    List VPNClient :=
  let identifiers := [strip result.uuid, strip result.email, strip result.remoteClientKey].filter
    (· ≠ "")
  db.clients.rows.filter fun c =>
    c.order = some o.pk ∧ c.inbound = some i.pk ∧ c.status ≠ .deleted ∧
      identifiers.any fun value =>
        iexact (c.uuid.getD "") value || iexact c.xuiEmail value || iexact c.remoteClientKey value

/-- `first or second`. -/
def orElseText (first second : String) : String := if first = "" then second else first

/-- What `_upsert_local_client` saves on the row. -/
def refreshedClient (now : Instant) (o : Order) (plan : Plan) (i : Inbound)
    (result : ClientResult) (c : VPNClient) : VPNClient :=
  let uuid := if result.uuid = "" then c.uuid else some result.uuid
  { c with
    store := o.store
    plan := some plan.pk
    username := orElseText c.username (orElseText result.email o.username)
    xuiEmail := orElseText result.email c.xuiEmail
    uuid := uuid
    subId := orElseText result.subId c.subId
    subLink := orElseText result.subLink c.subLink
    directLink := orElseText result.directLink c.directLink
    status := .active
    trafficLimitBytes := plan.trafficLimitBytes
    durationDays := plan.durationDays
    deviceLimit := plan.deviceLimit
    remoteClientKey := orElseText result.remoteClientKey
      (buildRemoteClientKey i (uuid.getD ""))
    expiresAt := result.expiresAt.orElse fun _ =>
      if plan.durationDays = 0 then c.expiresAt else some (now + daysToMs plan.durationDays * 1000) }

@[simp] theorem refreshedClient_pk (now : Instant) (o : Order) (plan : Plan) (i : Inbound)
    (result : ClientResult) (c : VPNClient) : (refreshedClient now o plan i result c).pk = c.pk :=
  rfl

/-- `_upsert_local_client`; it tells the row and whether it is new. -/
def upsertLocalClient (now : Instant) (o : Order) (plan : Plan) (i : Inbound)
    (result : ClientResult) : ShopM (ℕ × Bool) := do
  let db ← Prog.readDb id
  match localOrderClientMatches db o i result with
  | [] => do
      Prog.writeDb (·.addClient o plan (some i.pk) (orElseText result.email o.username) result
        .active)
      Prog.writeDb (·.setInbound i.pk useInbound useInbound_pk)
      saveClient db.clients.nextKey (refreshedClient now o plan i result)
        (refreshedClient_pk now o plan i result)
      return (db.clients.nextKey, true)
  | [c] => do
      saveClient c.pk (refreshedClient now o plan i result)
        (refreshedClient_pk now o plan i result)
      return (c.pk, false)
  | _ => Prog.raise "ambiguous_local_client"

end Qasedak.Orders
